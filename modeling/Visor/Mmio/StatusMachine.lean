import Visor.Devices.VirtioDevices
import Visor.Mmio.TransportProperties

/-! The machine looks at the bits that a written status adds and stores the whole value, so a driver
that leaves out a bit it set before takes that bit back. -/

namespace Visor
open Library VirtioDevice DeviceStatus BitVec List
variable {status value : U32}

theorem DeviceStatus.and_of_added {added mask : U32} (adds : ~~~status &&& value = added)
    (outside : status &&& mask = 0) : value &&& mask = added &&& mask := by
  subst adds
  ext index
  have apart : (status &&& mask)[index] = false := by simp [outside]
  simp only [getElem_and, getElem_not] at apart ⊢
  revert apart
  cases status[index] <;> cases value[index] <;> cases mask[index] <;> decide

theorem DeviceStatus.Enters.notOk (enters : Enters status value) :
    status &&& driverOk = 0 ∧ value &&& driverOk = 0 := by
  rcases enters with ⟨adds, current⟩ | ⟨adds, current⟩ | ⟨adds, current⟩
  all_goals
    refine ⟨by rw [current]; decide, ?_⟩
    rw [and_of_added adds (by rw [current]; decide)]
    decide

theorem DeviceStatus.Enters.notZero (enters : Enters status value) : value ≠ 0 := by
  rintro rfl
  have adds : ~~~status &&& (0 : U32) = 0 := and_zero
  unfold Enters at enters
  rw [adds] at enters
  rcases enters with ⟨none, _⟩ | ⟨none, _⟩ | ⟨none, _⟩
  all_goals exact absurd none (by decide)

theorem DeviceStatus.Advances.notFailed (advances : Advances status value) : value &&& failed = 0 := by
  rcases advances with ⟨adds, current⟩ | ⟨adds, current⟩ | ⟨adds, current⟩
  all_goals
    rw [and_of_added adds (by rw [current]; decide)]
    decide

theorem DeviceStatus.Advances.notZero (advances : Advances status value) : value ≠ 0 := by
  rintro rfl
  have adds : ~~~status &&& (0 : U32) = 0 := and_zero
  unfold Advances at advances
  rw [adds] at advances
  rcases advances with ⟨none, _⟩ | ⟨none, _⟩ | ⟨none, _⟩
  all_goals exact absurd none (by decide)

namespace MmioTransport
variable {Device Host : Type} [VirtioDevice Device Host] (transport : MmioTransport Device)
  (access : Access Device)

/-- The access does not clear a status bit, unless it is the one that resets. -/
def GainsBits : Prop :=
  access.wrote 0x70 ≠ some 0 →
    transport.deviceStatus &&& (transport.step access).deviceStatus = transport.deviceStatus

/-- DRIVER_OK stands only on top of the three stages before it. -/
def InOrder : Prop :=
  transport.deviceStatus &&& driverOk ≠ 0 →
    transport.deviceStatus &&& (acknowledge ||| driver ||| featuresOk) =
      acknowledge ||| driver ||| featuresOk

/-- A status that takes the device to its next stage repeats the bits set so far. -/
def KeepsBits : Prop :=
  ∀ value, access.wrote 0x70 = some value → Advances transport.deviceStatus value →
    transport.deviceStatus &&& value = transport.deviceStatus

/-- DRIVER_OK appears in the status, and the device did not refuse. -/
def acceptsDriverOk (before after : MmioTransport Device) : Bool :=
  decide (before.deviceStatus &&& driverOk = 0 ∧ after.deviceStatus &&& driverOk ≠ 0 ∧
    after.deviceStatus &&& failed = 0)

/-- DRIVER_OK has been accepted since the last reset, given whether it was before the run. -/
def driverOkAccepted (transport : MmioTransport Device) (accepted : Bool) : List (Access Device) → Bool
  | [] => accepted
  | access :: rest =>
    let next := transport.step access
    next.driverOkAccepted
      (if access.wrote 0x70 = some 0 then false
        else accepted || acceptsDriverOk transport next) rest

/-- No driver has been there yet. -/
structure Fresh (transport : MmioTransport Device) : Prop where
  status : transport.deviceStatus = init
  inactive : isActivated transport.device = false

section
variable [LawfulVirtioDevice Device]
variable (transport : MmioTransport Device)

theorem reset_profile : ∃ acked, (acked = ackedFeatures transport.device ∨ acked = 0) ∧
    profile transport.reset.device = { profile transport.device with
    ackedFeatures := acked
    queues := (queues transport.device).map VirtQueue.reset
    activated := false } := by
  obtain ⟨acked, which, seen⟩ := LawfulVirtioDevice.reset_profile transport.device
  refine ⟨acked, which, ?_⟩
  have queuesReset : queues (VirtioDevice.reset transport.device) =
    (queues transport.device).map VirtQueue.reset := congrArg Profile.queues seen
  have twice : ((queues transport.device).map VirtQueue.reset).mapIdx (fun _ => VirtQueue.reset) =
    (queues transport.device).map VirtQueue.reset := by
    apply ext_getElem?
    intro index
    simp only [getElem?_mapIdx, getElem?_map, Option.map_map]
    rfl
  show profile (mapQueues (VirtioDevice.reset transport.device) fun _ => VirtQueue.reset) = _
  rw [LawfulVirtioDevice.mapQueues_profile, seen, queuesReset, twice]

theorem step_status (access : Access Device) :
    (access.wrote 0x70 = none ∧ (transport.step access).deviceStatus = transport.deviceStatus ∧
      isActivated (transport.step access).device = isActivated transport.device) ∨
    ∃ value, access.wrote 0x70 = some value ∧ StatusEffect transport value (transport.step access) := by
  cases transport.step_effect access with
  | quiet status profile calls noStatus => exact .inl ⟨noStatus, status, congrArg Profile.activated profile⟩
  | acked value wrote allowed noStatus result =>
    obtain ⟨status, _, acked, _, seen⟩ := transport.ackFeatures_profile value
    rw [result]
    exact .inl ⟨noStatus, status, congrArg Profile.activated seen⟩
  | queue change maxSize allowed noStatus result =>
    rw [result]
    exact .inl ⟨noStatus, rfl, congrArg Profile.activated (LawfulVirtioDevice.mapQueues_profile _ _)⟩
  | processed host queueIdx memory attached cause noStatus result =>
    obtain ⟨status, passed, _, seen, _⟩ := transport.processQueue_processed host queueIdx memory
    rw [result]
    exact .inl ⟨noStatus, status, congrArg Profile.activated seen⟩
  | status host value wrote result =>
    rw [result]
    exact .inr ⟨value, wrote, transport.setDeviceStatus_effect host value⟩

omit [LawfulVirtioDevice Device] in
theorem Processed.isActivated_eq {transport next : MmioTransport Device} {queueIdx : Nat}
    (processed : Processed transport next queueIdx) :
    isActivated next.device = isActivated transport.device := by
  obtain ⟨_, passed, _, seen, _⟩ := processed
  exact congrArg Profile.activated seen

/-- An active device has DRIVER_OK in its status, since no status past it is accepted. -/
def ActiveIsOk (transport : MmioTransport Device) (accepted : Bool) : Prop :=
  isActivated transport.device = accepted ∧
    (isActivated transport.device = true → transport.deviceStatus &&& driverOk ≠ 0)

theorem failed_isSet (status : U32) : (status ||| failed) &&& failed ≠ 0 := by
  rw [and_or_distrib_right, BitVec.and_self]
  intro zero
  exact absurd (or_eq_zero_iff.mp zero).2 (by decide)

variable (accepted : Bool) (accesses : List (Access Device))

theorem step_activeIsOk (access : Access Device) (holds : transport.ActiveIsOk accepted) :
    (transport.step access).ActiveIsOk (if access.wrote 0x70 = some 0 then false
    else accepted || acceptsDriverOk transport (transport.step access)) := by
  obtain ⟨active, isOk⟩ := holds
  rcases transport.step_status access with ⟨noStatus, same, kept⟩ | ⟨value, wrote, effect⟩
  · have unaccepted : acceptsDriverOk transport (transport.step access) = false := by
      refine decide_eq_false fun accepts => accepts.2.1 ?_
      rw [same]
      exact accepts.1
    rw [noStatus, if_neg (by simp), unaccepted, Bool.or_false]
    exact ⟨kept.trans active, by rw [kept, same]; exact isOk⟩
  · generalize transport.step access = next at effect ⊢
    rw [wrote]
    cases effect with
    | reset isZero result =>
      obtain ⟨acked, _, seen⟩ := transport.reset_profile
      have off : isActivated next.device = false := by
        rw [result]
        exact congrArg Profile.activated seen
      rw [isZero, if_pos rfl]
      exact ⟨off, by simp [off]⟩
    | failed isFailed result =>
      have unaccepted : acceptsDriverOk transport next = false := by
        refine decide_eq_false fun accepts => failed_isSet transport.deviceStatus ?_
        simpa only [result] using accepts.2.2
      have notZero : value ≠ 0 := by
        rintro rfl
        exact isFailed (zero_and)
      rw [if_neg (by simpa using notZero), unaccepted, Bool.or_false, result]
      refine ⟨active, fun on clear => isOk on ?_⟩
      rw [and_or_distrib_right] at clear
      exact (or_eq_zero_iff.mp clear).1
    | stored enters result =>
      have unaccepted : acceptsDriverOk transport next = false := by
        refine decide_eq_false fun accepts => accepts.2.1 ?_
        rw [result]
        exact enters.notOk.2
      rw [if_neg (by simpa using enters.notZero), unaccepted, Bool.or_false, result]
      exact ⟨active, fun on => absurd enters.notOk.1 (isOk on)⟩
    | driverOk advances result =>
      obtain ⟨adds, current⟩ := advances
      have off : isActivated transport.device = false := by
        rw [Bool.eq_false_iff]
        intro on
        exact isOk on (by rw [current]; decide)
      have isSet : value &&& driverOk ≠ 0 := by
        rw [and_of_added adds (by rw [current]; decide)]
        decide
      have notFailed : value &&& failed = 0 := by
        rw [and_of_added adds (by rw [current]; decide)]
        decide
      have notZero : value ≠ 0 := by
        rintro rfl
        exact isSet (by decide)
      rw [if_neg (by simpa using notZero), ← active, off, Bool.false_or]
      cases result with
      | already on => rw [off] at on; cases on
      | refused inactive status profile =>
        have unaccepted : acceptsDriverOk transport next = false := by
          refine decide_eq_false fun accepts => failed_isSet value ?_
          rw [← status]
          exact accepts.2.2
        have still : isActivated next.device = false := (congrArg Profile.activated profile).trans off
        rw [unaccepted]
        exact ⟨still, by simp [still]⟩
      | done activated inactive status profile calls result =>
        have final : next.deviceStatus = value ∧ isActivated next.device = true := by
          have on : isActivated activated.device = true := congrArg Profile.activated profile
          rcases result with rfl | processed
          · exact ⟨status, on⟩
          · exact ⟨processed.status.trans status, processed.isActivated_eq.trans on⟩
        have accepts : acceptsDriverOk transport next = true := by
          refine decide_eq_true ⟨by rw [current]; decide, ?_, ?_⟩
          · rw [final.1]
            exact isSet
          · rw [final.1]
            exact notFailed
        rw [accepts]
        exact ⟨final.2, fun _ => by rw [final.1]; exact isSet⟩
    | ignored notZero stays result =>
      have unaccepted : acceptsDriverOk transport next = false :=
        decide_eq_false fun accepts => accepts.2.1 (by rw [result]; exact accepts.1)
      rw [if_neg (by simpa using notZero), unaccepted, Bool.or_false, result]
      exact ⟨active, isOk⟩

theorem run_activeIsOk (holds : transport.ActiveIsOk accepted) :
    (run step transport accesses).ActiveIsOk (transport.driverOkAccepted accepted accesses) := by
  induction accesses generalizing transport accepted with
  | nil => exact holds
  | cons access rest ih => exact ih _ _ (transport.step_activeIsOk accepted access holds)

theorem and_or_self (status more : U32) : status &&& (status ||| more) = status := by
  ext index
  simp only [getElem_and, getElem_or]
  cases status[index] <;> cases more[index] <;> rfl

theorem and_of_apart {status more mask : U32} (apart : more &&& mask = 0) :
    (status ||| more) &&& mask = status &&& mask := by
  rw [and_or_distrib_right, apart]
  exact or_zero

theorem inOrder_of_clear {transport : MmioTransport Device}
    (clear : transport.deviceStatus &&& driverOk = 0) : transport.InOrder :=
  fun isSet => absurd clear isSet

theorem step_bits_iff (access : Access Device) (inOrder : transport.InOrder) :
    transport.GainsBits access ∧ (transport.step access).InOrder ↔ transport.KeepsBits access := by
  unfold GainsBits KeepsBits
  rcases transport.step_status access with ⟨noStatus, same, _⟩ | ⟨value, wrote, effect⟩
  · simp only [noStatus, same, BitVec.and_self, reduceCtorEq, false_implies, implies_true,
      true_and, iff_true]
    unfold InOrder
    rw [same]
    exact inOrder
  · generalize transport.step access = next at effect ⊢
    simp only [wrote, Option.some.injEq, forall_eq', ne_eq]
    cases effect with
    | reset isZero result =>
      refine iff_of_true ⟨fun notZero => absurd isZero notZero, inOrder_of_clear ?_⟩ fun advances =>
        absurd isZero advances.notZero
      rw [result]
      exact zero_and
    | failed isFailed result =>
      refine iff_of_true ⟨fun _ => ?_, ?_⟩ fun advances => absurd advances.notFailed isFailed
      · rw [result]
        exact and_or_self _ _
      · unfold InOrder
        rw [result]
        simp only [and_of_apart (show failed &&& driverOk = 0 by decide), and_of_apart
          (show failed &&& (acknowledge ||| driver ||| featuresOk) = 0 by decide)]
        exact inOrder
    | stored enters result =>
      have keeps : Enters transport.deviceStatus value →
        (Advances transport.deviceStatus value ∨ transport.deviceStatus = init) := by
        rintro (⟨_, current⟩ | advances | advances)
        · exact .inr current
        · exact .inl (.inl advances)
        · exact .inl (.inr (.inl advances))
      have inOrderNext : next.InOrder := inOrder_of_clear (by rw [result]; exact enters.notOk.2)
      rw [result] at inOrderNext ⊢
      rcases keeps enters with advances | current
      · constructor
        · rintro ⟨gains, _⟩ _
          exact gains enters.notZero
        · intro kept
          exact ⟨fun _ => kept advances, inOrderNext⟩
      · have nothing : transport.deviceStatus &&& value = transport.deviceStatus := by
          rw [current]
          exact zero_and
        exact iff_of_true ⟨fun _ => nothing, inOrderNext⟩ fun _ => nothing
    | driverOk advances result =>
      obtain ⟨adds, current⟩ := advances
      have advances : Advances transport.deviceStatus value := .inr (.inr ⟨adds, current⟩)
      have status : next.deviceStatus = value ∨ next.deviceStatus = value ||| failed := by
        cases result with
        | already _ result => exact .inl (by rw [result])
        | refused _ status => exact .inr status
        | done activated _ status _ _ result =>
          rcases result with rfl | processed
          · exact .inl status
          · exact .inl (processed.status.trans status)
      have masked : ∀ mask, failed &&& mask = 0 → next.deviceStatus &&& mask = value &&& mask := by
        intro mask apart
        rcases status with same | also
        · rw [same]
        · rw [also, and_of_apart apart]
      have gained : transport.deviceStatus &&& next.deviceStatus = transport.deviceStatus &&& value := by
        rw [BitVec.and_comm, masked _ (by rw [current]; decide), BitVec.and_comm]
      rw [gained]
      constructor
      · rintro ⟨gains, _⟩ _
        exact gains advances.notZero
      · intro kept
        refine ⟨fun _ => kept advances, fun _ => ?_⟩
        rw [masked _ (by decide), ← current, BitVec.and_comm]
        exact kept advances
    | ignored notZero stays result =>
      rw [result]
      exact iff_of_true ⟨fun _ => BitVec.and_self, inOrder⟩ fun advances => absurd advances stays

private theorem run_bits_iff (inOrder : transport.InOrder) :
    Along step GainsBits transport accesses ∧ Throughout step InOrder transport accesses ↔
    Along step KeepsBits transport accesses := by
  induction accesses generalizing transport with
  | nil => exact iff_of_true ⟨trivial, inOrder⟩ trivial
  | cons access rest ih =>
    have first := transport.step_bits_iff access inOrder
    simp only [along_cons, throughout_cons]
    constructor
    · rintro ⟨⟨gains, later⟩, _, ordered⟩
      have next := ordered.start
      exact ⟨first.mp ⟨gains, next⟩, (ih _ next).mp ⟨later, ordered⟩⟩
    · rintro ⟨keeps, later⟩
      obtain ⟨gains, next⟩ := first.mpr keeps
      obtain ⟨laterGains, ordered⟩ := (ih _ next).mpr later
      exact ⟨⟨gains, laterGains⟩, inOrder, ordered⟩

/-- The device is active exactly if DRIVER_OK has been accepted since the last reset. The
status gains bits and keeps its order for as long as the driver, where it takes the device to
its next stage, writes the bits of the earlier stages again; and no longer. -/
theorem statusMachine (start : MmioTransport Device) (fresh : start.Fresh)
    (accesses : List (Access Device)) :
    isActivated (run step start accesses).device = start.driverOkAccepted false accesses ∧
    (Along step GainsBits start accesses ∧ Throughout step InOrder start accesses ↔
      Along step KeepsBits start accesses) := by
  constructor
  · have initially : start.ActiveIsOk false := ⟨fresh.inactive, by simp [fresh.inactive]⟩
    exact (start.run_activeIsOk false accesses initially).1
  · have inOrder : start.InOrder := by
      apply inOrder_of_clear
      rw [fresh.status]
      decide
    exact start.run_bits_iff accesses inOrder

end

def drainedRng : MmioTransport (Featured Rng.RngDevice) := new (rngDevice ⟨fun _ => none, 0⟩)
def writeStatuses (statuses : List U8) : List (Access (Featured Rng.RngDevice)) :=
  statuses.map fun status => .write () 0x70 [status, 0, 0, 0]

theorem statusMachine_negotiated :
    isActivated (run step drainedRng (writeStatuses [1, 3, 11, 15])).device = true :=
  (statusMachine drainedRng ⟨rfl, rfl⟩ (writeStatuses [1, 3, 11, 15])).1.trans (by decide)

/-- A driver that ends with DRIVER_OK alone has an active device and a status that lost the
stages before. -/
theorem driverOk_alone : isActivated (run step drainedRng (writeStatuses [1, 3, 11, 4])).device = true ∧
    (run step drainedRng (writeStatuses [1, 3, 11])).deviceStatus = 11 ∧
    (run step drainedRng (writeStatuses [1, 3, 11, 4])).deviceStatus = 4 := by decide

end MmioTransport
end Visor
