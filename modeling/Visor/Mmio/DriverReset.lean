import Visor.Mmio.StatusMachine

/-! A reset brings registers, queues and activation back to where they were when the transport was
created. The acknowledged features stay, except in a balloon. Within a negotiation they only grow,
so the driver cannot take back a feature it asked for. -/

namespace Visor
open Library VirtioDevice DeviceStatus Balloon Block Fs Net Rng Vsock Profile VirtQueue List BitVec
  LawfulVirtioDevice
namespace AnyDevice
inductive Created : AnyDevice → Prop where
  | block (diskFile : DiskFile) (readOnly : Bool) (idText : List U8) :
    Created (.block (blockDevice diskFile readOnly idText))
  | net (macAddr : { bytes : List U8 // bytes.length = 6 }) (packetIo : Option PacketIo) :
    Created (.net (netDevice macAddr packetIo))
  | rng (entropySource : EntropySource) : Created (.rng (rngDevice entropySource))
  | balloon (initialTargetPages : U32) : Created (.balloon (.new initialTargetPages))
  | fs (host : HostFs) (sharedDir : Path) (tag : List U8) (device : Featured FsBackend)
    (made : fsDevice host sharedDir tag = some device) : Created (.fs device)

/-- The device as it would be created anew on the backend it has now. -/
def renewed : AnyDevice → AnyDevice
  | .block device =>
    .block { device with
      ackedFeatures := 0
      backend := { device.backend with
        queue := .new Block.queueMaxSize, activated := false } }
  | .net device =>
    .net { device with
      ackedFeatures := 0
      backend := { device.backend with
        device := { device.backend.device with
          rxQueue := .new Net.queueMaxSize
          txQueue := .new Net.queueMaxSize
          activated := false } } }
  | .rng device =>
    .rng { device with
      ackedFeatures := 0
      backend := { device.backend with
        queue := .new Rng.queueMaxSize, activated := false } }
  | .balloon device =>
    .balloon { device with
      ackedFeatures := 0
      inflateQueue := .new Balloon.queueMaxSize
      deflateQueue := .new Balloon.queueMaxSize
      activated := false }
  | .fs device =>
    .fs { device with
      ackedFeatures := 0
      backend := { device.backend with
        hiprioQueue := .new Fs.queueMaxSize
        device := { device.backend.device with
          requestQueue := .new Fs.queueMaxSize
          activated := false } } }
  | .vsock device => .vsock device

def maxSizes (device : AnyDevice) : List U16 := (queues device).map maxSize

theorem ackedFeatures_reset (device : AnyDevice) : ackedFeatures (VirtioDevice.reset device) =
    if deviceType device = .balloon then 0 else ackedFeatures device := by
  rcases device with device | device | device | device | device | device <;> rfl

/-- The queue sizes that a created device of the kind supports. -/
def kindSizes : DeviceType → List U16
  | .block => [Block.queueMaxSize]
  | .net => [Net.queueMaxSize, Net.queueMaxSize]
  | .rng => [Rng.queueMaxSize]
  | .balloon => [Balloon.queueMaxSize, Balloon.queueMaxSize]
  | .fs => [Fs.queueMaxSize, Fs.queueMaxSize]
  | .vsock => [Vsock.queueMaxSize, Vsock.queueMaxSize, Vsock.queueMaxSize]
  | .console => []

theorem reset_eq_renewed {device : AnyDevice} (notVsock : deviceType device ≠ .vsock)
    (sizes : device.maxSizes = kindSizes (deviceType device))
    (forgets : deviceType device = .balloon ∨ ackedFeatures device = 0) :
    mapQueues (VirtioDevice.reset device) (fun _ => VirtQueue.reset) = device.renewed := by
  cases device with
  | block device =>
    have size : device.backend.queue.maxSize = Block.queueMaxSize := (cons.inj sizes).1
    have acked : device.ackedFeatures = 0 := forgets.resolve_left nofun
    simp only [renewed, ← size, ← acked]
    rfl
  | net device =>
    obtain ⟨rxSize, more⟩ := cons.inj sizes
    have rx : device.backend.device.rxQueue.reset = .new Net.queueMaxSize := congrArg VirtQueue.new rxSize
    have tx : device.backend.device.txQueue.reset = .new Net.queueMaxSize :=
      congrArg VirtQueue.new (cons.inj more).1
    have acked : device.ackedFeatures = 0 := forgets.resolve_left nofun
    show AnyDevice.net { device with
      backend := { device.backend with
        device := { device.backend.device with
          activated := false
          rxQueue := device.backend.device.rxQueue.reset
          txQueue := device.backend.device.txQueue.reset } } } = _
    rw [rx, tx]
    simp only [renewed, ← acked]
  | rng device =>
    have size : device.backend.queue.maxSize = Rng.queueMaxSize := (cons.inj sizes).1
    have acked : device.ackedFeatures = 0 := forgets.resolve_left nofun
    simp only [renewed, ← size, ← acked]
    rfl
  | balloon device =>
    obtain ⟨inflateSize, more⟩ := cons.inj sizes
    have inflate : device.inflateQueue.reset = .new Balloon.queueMaxSize :=
      congrArg VirtQueue.new inflateSize
    have deflate : device.deflateQueue.reset = .new Balloon.queueMaxSize :=
      congrArg VirtQueue.new (cons.inj more).1
    show AnyDevice.balloon { device with
      activated := false, ackedFeatures := 0
      inflateQueue := device.inflateQueue.reset
      deflateQueue := device.deflateQueue.reset } = _
    rw [inflate, deflate]
    rfl
  | fs device =>
    obtain ⟨hiprioSize, more⟩ := cons.inj sizes
    have hiprio : device.backend.hiprioQueue.reset = .new Fs.queueMaxSize :=
      congrArg VirtQueue.new hiprioSize
    have request : device.backend.device.requestQueue.reset = .new Fs.queueMaxSize :=
      congrArg VirtQueue.new (cons.inj more).1
    have acked : device.ackedFeatures = 0 := forgets.resolve_left nofun
    show AnyDevice.fs { device with
      backend := { device.backend with
        hiprioQueue := device.backend.hiprioQueue.reset
        device := { device.backend.device with
          activated := false
          requestQueue := device.backend.device.requestQueue.reset } } } = _
    rw [hiprio, request]
    simp only [renewed, ← acked]
  | vsock => exact absurd rfl notVsock

section
variable {device : AnyDevice} (created : device.Created)
include created

theorem Created.profile_eq : profile device = { profile device with
    ackedFeatures := 0
    queues := (kindSizes (deviceType device)).map VirtQueue.new
    activated := false } := by
  cases created with
  | fs host sharedDir tag device made =>
    obtain ⟨made, new, rfl⟩ := Option.map_eq_some_iff.mp made
    obtain ⟨_, _, rfl⟩ := Option.map_eq_some_iff.mp new
    rfl
  | _ => rfl

theorem Created.queues_eq : queues device = (kindSizes (deviceType device)).map VirtQueue.new :=
  congrArg queues created.profile_eq

theorem Created.maxSizes_eq : device.maxSizes = kindSizes (deviceType device) := by
  unfold AnyDevice.maxSizes
  rw [created.queues_eq, map_map]
  exact map_id _

theorem Created.notVsock : deviceType device ≠ .vsock := by cases created <;> nofun

end
end AnyDevice

structure FeatureWrite where
  page : U32
  value : U32

open FeatureWrite
namespace FeatureWrite
def bits (write : FeatureWrite) : U64 :=
  if write.page = 0 then write.value.setWidth 64
  else if write.page = 1 then write.value.setWidth 64 <<< 32
  else 0

variable (writes : List FeatureWrite)

/-- The bits of the last write to the page, the last write standing first. -/
def lastBits (page : U32) : U64 := ((writes.find? (·.page = page)).map bits).getD 0

/-- The feature pages as the driver last wrote them. -/
def requested : U64 := lastBits writes 0 ||| lastBits writes 1
def union : U64 := writes.foldr (fun write acc => write.bits ||| acc) 0

theorem getElem_union {index : Nat} (inside : index < 64) :
    (union writes)[index] = writes.any (·.bits[index]) := by
  induction writes with
  | nil => simp [union]
  | cons write rest ih =>
    show (write.bits ||| union rest)[index] = _
    rw [getElem_or, ih, any_cons]

theorem lastBits_of_set {writes : List FeatureWrite} {page : U32} {index : Nat}
    (inside : index < 64) (isSet : (lastBits writes page)[index] = true) :
    ∃ write ∈ writes, write.bits[index] = true := by
  unfold lastBits at isSet
  cases found : writes.find? (·.page = page) with
  | none => simp [found] at isSet
  | some write =>
    rw [found] at isSet
    exact ⟨write, mem_of_find?_eq_some found, isSet⟩

theorem and_eq_left_iff {first second : U64} : first &&& second = first ↔
    ∀ (index : Nat) (inside : index < 64), first[index] = true → second[index] = true := by
  constructor
  · intro same index inside isSet
    rw [← same, getElem_and, Bool.and_eq_true] at isSet
    exact isSet.2
  · intro includes
    ext index inside
    rw [getElem_and]
    cases isSet : first[index] with
    | false => rfl
    | true => rw [includes index inside isSet, Bool.and_self]

/-- What was asked for at any time is what was asked for last, exactly if nothing on offer was
taken back. -/
theorem union_eq_requested_iff {session remembered : List FeatureWrite} (avail : U64)
    (includes : session ⊆ remembered) : union remembered &&& avail = requested session &&& avail ↔
    ∀ write ∈ remembered, write.bits &&& avail &&& requested session = write.bits &&& avail := by
  simp only [and_eq_left_iff]
  constructor
  · intro same write member index inside isSet
    rw [getElem_and, Bool.and_eq_true] at isSet
    have asked : (union remembered &&& avail)[index] = true := by
      rw [getElem_and, getElem_union, isSet.2, Bool.and_true]
      exact any_eq_true.mpr ⟨write, member, isSet.1⟩
    rw [same, getElem_and, Bool.and_eq_true] at asked
    exact asked.1
  · intro kept
    ext index inside
    rw [getElem_and, getElem_and, getElem_union]
    cases offered : avail[index] with
    | false => simp
    | true =>
      rw [Bool.and_true, Bool.and_true, Bool.eq_iff_iff, any_eq_true]
      constructor
      · rintro ⟨write, member, isSet⟩
        exact kept write member index inside (by rw [getElem_and, isSet, offered]; rfl)
      · intro isSet
        have asked : ∃ write ∈ session, write.bits[index] = true := by
          rw [show requested session = lastBits session 0 ||| lastBits session 1 from rfl,
            getElem_or, Bool.or_eq_true] at isSet
          rcases isSet with low | high
          · exact lastBits_of_set inside low
          · exact lastBits_of_set inside high
        obtain ⟨write, member, bit⟩ := asked
        exact ⟨write, includes member, bit⟩

end FeatureWrite

namespace MmioTransport
section
variable {Device Host : Type} [VirtioDevice Device Host]

/-- The write to the driver's features that the access makes, if the transport takes it. -/
def acceptedFeatures (transport : MmioTransport Device) (access : Access Device) : Option FeatureWrite :=
  match access.wrote 0x20 with
  | some value =>
    if transport.checkStatus driver featuresOk then some ⟨transport.ackedFeaturesSelect, value⟩
    else none
  | none => none

/-- The device still is of its kind, and offers and acknowledges what it did. -/
structure Retains (before after : Device) : Prop where
  kind : deviceType after = deviceType before
  avail : availFeatures after = availFeatures before
  acked : ackedFeatures after = ackedFeatures before
  maxSizes : (queues after).map maxSize = (queues before).map maxSize

theorem Retains.refl (device : Device) : Retains device device := ⟨rfl, rfl, rfl, rfl⟩

theorem Retains.trans {before between after : Device} (first : Retains before between)
    (second : Retains between after) : Retains before after :=
  ⟨second.kind.trans first.kind, second.avail.trans first.avail, second.acked.trans first.acked,
    second.maxSizes.trans first.maxSizes⟩

theorem Retains.of_profile {before after : Device} {passed : List VirtQueue} {activated : Bool}
    (seen : profile after = { profile before with queues := passed, activated := activated })
    (maxSizes : passed.map maxSize = (queues before).map maxSize) :
    Retains before after where
  kind := congrArg deviceType seen
  avail := congrArg availFeatures seen
  acked := congrArg ackedFeatures seen
  maxSizes := (congrArg (·.queues.map maxSize) seen).trans maxSizes

variable [LawfulVirtioDevice Device]

private theorem maxSizes_of_passed {before after : List VirtQueue}
    (passed : List.Forall₂ VirtQueue.Passed before after) : after.map maxSize = before.map maxSize := by
  induction passed with
  | nil => rfl
  | cons first _ ih =>
    have same : _ = _ := congrArg maxSize first.config
    simp only [map_cons, ih]
    exact congrArg (· :: _) same

omit [LawfulVirtioDevice Device] in
theorem Processed.retains {transport next : MmioTransport Device} {queueIdx : Nat}
    (processed : Processed transport next queueIdx) : Retains transport.device next.device := by
  obtain ⟨_, passed, queuesPassed, seen, _⟩ := processed
  exact .of_profile seen (maxSizes_of_passed queuesPassed)

omit [LawfulVirtioDevice Device] in
theorem Activation.retains {stored next : MmioTransport Device}
    (activation : Activation stored next) : Retains stored.device next.device := by
  cases activation with
  | already active result =>
    rw [result]
    exact .refl _
  | refused inactive status profile => exact .of_profile profile rfl
  | done activated inactive status profile calls result =>
    have first : Retains stored.device activated.device := .of_profile profile rfl
    rcases result with rfl | processed
    · exact first
    · exact first.trans processed.retains

variable (transport : MmioTransport Device) (access : Access Device)

theorem step_retains (noReset : access.wrote 0x70 ≠ some 0)
    (noFeatures : transport.acceptedFeatures access = none) :
    Retains transport.device (transport.step access).device := by
  have effect := transport.step_effect access
  generalize transport.step access = next at effect ⊢
  cases effect with
  | quiet status profile => exact .of_profile profile rfl
  | acked value wrote allowed => simp [acceptedFeatures, wrote, allowed] at noFeatures
  | queue change maxSize allowed noStatus result =>
    rw [result]
    refine .of_profile (mapQueues_profile _ _) ?_
    apply ext_getElem?
    intro index
    simp only [getElem?_map, getElem?_mapIdx, Option.map_map]
    congr 1
    funext queue
    simp only [Function.comp, changeSelected]
    split
    · exact maxSize queue
    · rfl
  | processed host queueIdx memory attached cause noStatus result =>
    rw [result]
    exact (transport.processQueue_processed host queueIdx memory).retains
  | status host value wrote result =>
    have effect := transport.setDeviceStatus_effect host value
    rw [← result] at effect
    cases effect with
    | reset isZero => exact absurd (wrote.trans (congrArg some isZero)) noReset
    | failed _ result | stored _ result | ignored _ _ result => rw [result]; exact .refl _
    | driverOk _ activation => exact activation.retains

theorem step_accepted (write : FeatureWrite)
    (accepted : transport.acceptedFeatures access = some write)
    (offered : ackedFeatures transport.device &&& availFeatures transport.device =
      ackedFeatures transport.device) : ackedFeatures (transport.step access).device =
    ackedFeatures transport.device ||| (write.bits &&& availFeatures transport.device) ∧
    deviceType (transport.step access).device = deviceType transport.device ∧
    availFeatures (transport.step access).device = availFeatures transport.device ∧
    queues (transport.step access).device = queues transport.device := by
  have wrote : ∃ value, access.wrote 0x20 = some value ∧
    transport.checkStatus driver featuresOk = true ∧
    write = ⟨transport.ackedFeaturesSelect, value⟩ := by
    unfold acceptedFeatures at accepted
    split at accepted
    · split at accepted
      · cases accepted
        exact ⟨_, ‹_›, ‹_›, rfl⟩
      · cases accepted
    · cases accepted
  obtain ⟨value, wrote, allowed, rfl⟩ := wrote
  obtain ⟨host, offset, located, stepped⟩ := transport.step_of_wrote wrote
  have eq : transport.writeRegister host offset value = transport.ackFeatures value := by
    unfold writeRegister
    rw [located]
    exact if_pos allowed
  obtain ⟨_, _, acked, whole, seen⟩ := transport.ackFeatures_profile value
  rw [stepped, eq]
  refine ⟨(congrArg ackedFeatures seen).trans ((whole offered).trans ?_),
    congrArg deviceType seen, congrArg availFeatures seen, congrArg queues seen⟩
  unfold requestedFeatures pageFeatures bits
  split
  · rfl
  · split <;> rfl

omit [LawfulVirtioDevice Device] in
theorem step_reset {access : Access Device} (isReset : access.wrote 0x70 = some 0) :
    transport.step access = transport.reset := by
  obtain ⟨host, offset, located, stepped⟩ := transport.step_of_wrote isReset
  rw [stepped]
  unfold writeRegister
  rw [located]
  rfl

end

/-- What a driver sees of its negotiation with a device. -/
structure Negotiation where
  deviceStatus : U32
  interruptStatus : U32
  featuresSelect : U32
  ackedFeaturesSelect : U32
  queueSelect : U32
  queues : List VirtQueue
  ackedFeatures : U64
  activated : Bool

def negotiation (transport : MmioTransport AnyDevice) : Negotiation where
  deviceStatus := transport.deviceStatus
  interruptStatus := transport.interruptStatus
  featuresSelect := transport.featuresSelect
  ackedFeaturesSelect := transport.ackedFeaturesSelect
  queueSelect := transport.queueSelect
  queues := queues transport.device
  ackedFeatures := ackedFeatures transport.device
  activated := isActivated transport.device

/-- A new transport around the device, wired up as the other one is. What the other one keeps
over a reset is not the driver's. -/
def inPlaceOf (other : MmioTransport AnyDevice) (device : AnyDevice) : MmioTransport AnyDevice :=
  { new device with
    memory := other.memory
    irqEvt := other.irqEvt
    irqDeassert := other.irqDeassert
    configGeneration := other.configGeneration
    calls := other.calls }

/-- The feature writes that the transport took since the last reset, and those that the device
has not forgotten, the last one first. -/
structure FeatureLog where
  session : List FeatureWrite := []
  remembered : List FeatureWrite := []

def FeatureLog.after (log : FeatureLog) (transport : MmioTransport AnyDevice)
    (access : Access AnyDevice) : FeatureLog :=
  if access.wrote 0x70 = some 0 then
    { remembered := if deviceType transport.device = .balloon then [] else log.remembered }
  else
    match transport.acceptedFeatures access with
    | some write => ⟨write :: log.session, write :: log.remembered⟩
    | none => log

def featureLog (transport : MmioTransport AnyDevice) (log : FeatureLog) :
    List (Access AnyDevice) → FeatureLog
  | [] => log
  | access :: rest => (transport.step access).featureLog (log.after transport access) rest

/-- What a run keeps: the kind of device, and features acknowledged because they were written. -/
structure Logged (device : AnyDevice) (transport : MmioTransport AnyDevice) (log : FeatureLog) : Prop where
  kind : deviceType transport.device = deviceType device
  avail : availFeatures transport.device = availFeatures device
  maxSizes : transport.device.maxSizes = device.maxSizes
  acked : ackedFeatures transport.device = union log.remembered &&& availFeatures device
  includes : log.session ⊆ log.remembered

theorem reset_device (transport : MmioTransport AnyDevice) : profile transport.reset.device =
    { profile transport.device with
    ackedFeatures := if deviceType transport.device = .balloon then 0
    else ackedFeatures transport.device
    queues := (queues transport.device).map VirtQueue.reset
    activated := false } := by
  obtain ⟨acked, _, seen⟩ := transport.reset_profile
  have kept : ackedFeatures transport.reset.device = ackedFeatures (VirtioDevice.reset transport.device) :=
    congrArg ackedFeatures (mapQueues_profile _ _)
  have left : ackedFeatures transport.reset.device = acked := congrArg ackedFeatures seen
  rw [seen, ← left, kept, AnyDevice.ackedFeatures_reset]

theorem maxSizes_reset (queues : List VirtQueue) :
    (queues.map VirtQueue.reset).map maxSize = queues.map maxSize := by
  rw [map_map]
  rfl

section
variable {device : AnyDevice} {transport : MmioTransport AnyDevice} {log : FeatureLog}
  (logged : Logged device transport log)
include logged

theorem Logged.step (access : Access AnyDevice) :
    Logged device (transport.step access) (log.after transport access) := by
  unfold FeatureLog.after
  by_cases isReset : access.wrote 0x70 = some 0
  · rw [if_pos isReset, transport.step_reset isReset]
    have seen := transport.reset_device
    refine ⟨(congrArg deviceType seen).trans logged.kind, (congrArg availFeatures seen).trans logged.avail,
      (congrArg (·.queues.map maxSize) seen).trans ((maxSizes_reset _).trans logged.maxSizes),
      (congrArg ackedFeatures seen).trans ?_, nil_subset _⟩
    split
    · exact (zero_and).symm
    · exact logged.acked
  · rw [if_neg isReset]
    cases accepted : transport.acceptedFeatures access with
    | none =>
      have retained := transport.step_retains access isReset accepted
      exact ⟨retained.kind.trans logged.kind, retained.avail.trans logged.avail,
        retained.maxSizes.trans logged.maxSizes, retained.acked.trans logged.acked, logged.includes⟩
    | some write =>
      have offered : ackedFeatures transport.device &&& availFeatures transport.device =
        ackedFeatures transport.device := by
        rw [logged.acked, logged.avail, BitVec.and_assoc, BitVec.and_self]
      obtain ⟨acked, kind, avail, same⟩ := transport.step_accepted access write accepted offered
      refine ⟨kind.trans logged.kind, avail.trans logged.avail, ?_, ?_, ?_⟩
      · unfold AnyDevice.maxSizes
        rw [same]
        exact logged.maxSizes
      · rw [acked, logged.acked, logged.avail, ← and_or_distrib_right, BitVec.or_comm]
        rfl
      · exact cons_subset_cons write logged.includes

theorem Logged.run (accesses : List (Access AnyDevice)) :
    Logged device (Library.run MmioTransport.step transport accesses)
    (transport.featureLog log accesses) := by
  induction accesses generalizing transport log with
  | nil => exact logged
  | cons access rest ih => exact ih (logged.step access)

end

def wired (device : AnyDevice) (memory : Option GuestMemory) (irqEvt irqDeassert : Option Nat) :
    MmioTransport AnyDevice :=
  { new device with memory := memory, irqEvt := irqEvt, irqDeassert := irqDeassert }

/-- After a reset the driver finds the negotiation of a new device, exactly if the device is a
balloon or no feature had been acknowledged; all that follows is then as it would be around a
new device on the same backend. The acknowledged features are at any time those of the last
written pages that are on offer, exactly if no write that the device remembers asked for a
feature on offer that the pages no longer show. -/
theorem reset_forgets_iff (device : AnyDevice) (created : device.Created)
    (memory : Option GuestMemory) (irqEvt irqDeassert : Option Nat)
    (accesses : List (Access AnyDevice)) (reset : Access AnyDevice) (isReset : reset.wrote 0x70 = some 0) :
    let start := wired device memory irqEvt irqDeassert
    let used := run step start accesses
    let log := start.featureLog {} accesses
    ((used.step reset).negotiation = start.negotiation ↔
      deviceType device = .balloon ∨ ackedFeatures used.device = 0) ∧
      (deviceType device = .balloon ∨ ackedFeatures used.device = 0 →
        used.step reset = used.inPlaceOf used.device.renewed) ∧
      (ackedFeatures used.device = requested log.session &&& availFeatures device ↔
        ∀ write ∈ log.remembered, write.bits &&& availFeatures device &&& requested log.session =
          write.bits &&& availFeatures device) := by
  intro start used log
  have none : ackedFeatures device = 0 := congrArg ackedFeatures created.profile_eq
  have initially : Logged device start {} := ⟨rfl, rfl, rfl, none.trans zero_and.symm, List.Subset.refl _⟩
  have logged : Logged device used log := initially.run accesses
  have stepped : used.step reset = used.reset := used.step_reset isReset
  have seen := used.reset_device
  refine ⟨?_, ?_, ?_⟩
  · have queuesReset : queues used.reset.device = queues device := by
      rw [created.queues_eq, ← created.maxSizes_eq, ← logged.maxSizes]
      exact (congrArg queues seen).trans (map_map).symm
    have activated : isActivated used.reset.device = isActivated device :=
      (congrArg activated seen).trans (congrArg activated created.profile_eq).symm
    have acked : ackedFeatures used.reset.device =
      if deviceType device = .balloon then 0 else ackedFeatures used.device := by
      rw [← logged.kind]
      exact congrArg ackedFeatures seen
    have view : used.reset.negotiation = { start.negotiation with
      ackedFeatures := if deviceType device = .balloon then 0
        else ackedFeatures used.device } := by
      rw [← acked]
      show Negotiation.mk 0 0 0 0 0 _ _ _ = Negotiation.mk 0 0 0 0 0 _ _ _
      rw [queuesReset, activated]
      rfl
    rw [stepped, view, show start.negotiation = { start.negotiation with ackedFeatures := 0 } from
      congrArg (fun acked => { start.negotiation with ackedFeatures := acked }) none]
    simp only [Negotiation.mk.injEq, and_true, true_and]
    by_cases isBalloon : deviceType device = .balloon
    · simp [isBalloon]
    · simp [isBalloon]
  · intro forgets
    rw [← logged.kind] at forgets
    have sizes : used.device.maxSizes = AnyDevice.kindSizes (deviceType used.device) := by
      rw [logged.maxSizes, logged.kind]
      exact created.maxSizes_eq
    have notVsock : deviceType used.device ≠ .vsock := by
      rw [logged.kind]
      exact created.notVsock
    rw [stepped]
    unfold MmioTransport.reset
    rw [AnyDevice.reset_eq_renewed notVsock sizes forgets]
    rfl
  · rw [logged.acked]
    exact union_eq_requested_iff _ logged.includes

def bareHost : AnyHost where
  files := ⟨fun _ => none, fun _ => none, fun _ => none⟩
  balloon := ⟨fun _ => 0, 0⟩
  vsock := ⟨[], 0⟩

def writeAll (writes : List (U64 × U8)) : List (Access AnyDevice) :=
  writes.map fun (register, value) => .write bareHost register [value, 0, 0, 0]

/-- A driver that acknowledges VIRTIO_F_VERSION_1 and goes no further. -/
def acknowledgeVersion : List (Access AnyDevice) := writeAll [(0x70, 1), (0x70, 3), (0x24, 1), (0x20, 1)]

theorem balloon_forgets :
    ((run step (wired (.balloon (.new 0)) none none none) acknowledgeVersion).step
      (.write bareHost 0x70 [0, 0, 0, 0])).negotiation =
    (wired (.balloon (.new 0)) none none none).negotiation :=
  (reset_forgets_iff (.balloon (.new 0)) (.balloon 0) none none none acknowledgeVersion
    (.write bareHost 0x70 [0, 0, 0, 0]) rfl).1.mpr (.inl rfl)

/-- An entropy device that has been reset starts with the features of its last driver, and a
new driver that asks for none ends with them. Nor can one driver take back what it asked for. -/
theorem features_survive :
    let device : AnyDevice := .rng (rngDevice ⟨fun _ => none, 0⟩)
    let start := wired device none none none
    ackedFeatures device = 0 ∧
      ackedFeatures (run step start (acknowledgeVersion ++ writeAll [(0x70, 0)])).device = virtioFVersion1 ∧
      ackedFeatures
        (run step start
        (acknowledgeVersion ++ writeAll [(0x70, 0), (0x70, 1), (0x70, 3), (0x70, 11)])).device =
        virtioFVersion1 ∧
      ackedFeatures
        (run step start (acknowledgeVersion ++ writeAll [(0x20, 0), (0x70, 11)])).device =
        virtioFVersion1 := by decide

end MmioTransport
end Visor
