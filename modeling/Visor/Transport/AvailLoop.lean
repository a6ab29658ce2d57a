import Visor.Transport.VirtQueue

/-! Every device backend drains its queue by the same loop: take avail entries up to the index read
at the start, serve each chain, add a used entry, and publish the used index once at the end. A
device supplies what happens before an entry is taken, with its chain, and after its used entry has
been written. -/

namespace Visor
/-- What a device does in its queue loop. `poll` may stop the loop before an entry is
taken; `serve` handles the chain and may also stop it; `settle` runs once the entry is
completed. Failures keep the changes made so far. -/
structure QueueService (Device Token Note Error : Type) where
  poll : Device → Device × Option Token
  serve : Device → GuestMemory → VirtQueue → Token → U16 →
    Device × GuestMemory × Except Error (Option (U32 × Note))
  settle : Device → GuestMemory → VirtQueue → U16 → Note → Device × GuestMemory × Except Error Unit

structure Progress (Device : Type) where
  device : Device
  memory : GuestMemory
  queue : VirtQueue
  processed : Bool

namespace QueueService
variable {Device Token Note Error : Type} [DescriptorErrors Error]
  (service : QueueService Device Token Note Error)

def step (progress : Progress Device) : Progress Device × Except Error (Option Unit) :=
  match service.poll progress.device with
  | (device, none) => ({ progress with device := device }, .ok none)
  | (device, some token) =>
    match progress.queue.readAvailEntry progress.memory with
    | .error error => ({ progress with device := device }, .error error)
    | .ok headIdx =>
      match service.serve device progress.memory progress.queue token headIdx with
      | (device, memory, .error error) =>
        ({ progress with device := device, memory := memory }, .error error)
      | (device, memory, .ok none) => ({ progress with device := device, memory := memory }, .ok none)
      | (device, memory, .ok (some (written, note))) =>
        match progress.queue.writeUsedEntry memory headIdx written with
        | (memory, .error error) => ({ progress with device := device, memory := memory }, .error error)
        | (memory, .ok ()) =>
          let queue := progress.queue.advance
          match service.settle device memory queue headIdx note with
          | (device, memory, .error error) => (⟨device, memory, queue, true⟩, .error error)
          | (device, memory, .ok ()) => (⟨device, memory, queue, true⟩, .ok (some ()))

def drain (service : QueueService Device Token Note Error) : Nat → Progress Device →
    Progress Device × Except Error Unit
  | 0, progress => (progress, .ok ())
  | remaining + 1, progress =>
    match service.step progress with
    | (progress, .error error) => (progress, .error error)
    | (progress, .ok none) => (progress, .ok ())
    | (progress, .ok (some ())) => drain service remaining progress

def processQueue (device : Device) (memory : GuestMemory) (queue : VirtQueue) :
    Progress Device × Except Error Bool :=
  let start : Progress Device := ⟨device, memory, queue, false⟩
  if !queue.ready || queue.size == 0 then (start, .ok false)
  else
    match queue.readAvailIdx memory with
    | .error error => (start, .error error)
    | .ok availIdx =>
      match service.drain (availIdx - queue.lastAvailIdx).toNat start with
      | (progress, .error error) => (progress, .error error)
      | (progress, .ok ()) =>
        if progress.processed then
          match progress.queue.writeUsedIdx progress.memory with
          | (memory, .error error) => ({ progress with memory := memory }, .error error)
          | (memory, .ok ()) => ({ progress with memory := memory }, .ok true)
        else (progress, .ok false)

/-- What a pass does to the device it does entry by entry. -/
theorem processQueue_device (service : QueueService Device Token Note Error) (device : Device)
    (memory : GuestMemory) (queue : VirtQueue) :
    (service.processQueue device memory queue).1.device =
      if !queue.ready || queue.size == 0 then device
      else
        match (queue.readAvailIdx memory : Except Error U16) with
        | .error _ => device
        | .ok availIdx => (service.drain (availIdx - queue.lastAvailIdx).toNat
            ⟨device, memory, queue, false⟩).1.device := by
  unfold QueueService.processQueue
  dsimp only
  split
  · rfl
  · cases (queue.readAvailIdx memory : Except Error U16) with
    | error => rfl
    | ok availIdx =>
      dsimp only
      generalize service.drain _ _ = outcome
      obtain ⟨progress, _ | ⟨⟩⟩ := outcome
      · rfl
      · dsimp only
        split
        · split
          · rfl
          · rfl
        · rfl

/-- Every part of the service takes the device along the relation. -/
structure Moves (service : QueueService Device Token Note Error)
    (relation : Device → Device → Prop) : Prop where
  refl : ∀ device, relation device device
  trans : ∀ {first second third}, relation first second → relation second third → relation first third
  poll : ∀ device, relation device (service.poll device).1
  serve :
    ∀ device memory queue token headIdx, relation device (service.serve device memory queue token headIdx).1
  settle :
    ∀ device memory queue headIdx note, relation device (service.settle device memory queue headIdx note).1

namespace Moves
variable {service : QueueService Device Token Note Error} {relation : Device → Device → Prop}
section
variable (moves : service.Moves relation)
include moves

theorem step (progress : Progress Device) : relation progress.device (service.step progress).1.device := by
  have polled := moves.poll progress.device
  unfold QueueService.step
  generalize service.poll progress.device = answer at polled ⊢
  obtain ⟨device, _ | token⟩ := answer
  · exact polled
  · dsimp only at polled ⊢
    generalize (progress.queue.readAvailEntry progress.memory : Except Error U16) = entry
    cases entry with
    | error => exact polled
    | ok headIdx =>
      have served := moves.serve device progress.memory progress.queue token headIdx
      dsimp only
      generalize service.serve device progress.memory progress.queue token headIdx = answer at served ⊢
      obtain ⟨device, memory, _ | _ | ⟨written, note⟩⟩ := answer
      · exact moves.trans polled served
      · exact moves.trans polled served
      · dsimp only at served ⊢
        generalize
          (progress.queue.writeUsedEntry memory headIdx written : GuestMemory × Except Error Unit) = entered
        obtain ⟨memory, _ | _⟩ := entered
        · exact moves.trans polled served
        · have settled := moves.settle device memory progress.queue.advance headIdx note
          dsimp only
          generalize service.settle device memory progress.queue.advance headIdx note = answer at settled ⊢
          obtain ⟨device, memory, _ | _⟩ := answer
          · exact moves.trans polled (moves.trans served settled)
          · exact moves.trans polled (moves.trans served settled)

theorem drain (remaining : Nat) (progress : Progress Device) :
    relation progress.device (service.drain remaining progress).1.device := by
  induction remaining generalizing progress with
  | zero => exact moves.refl _
  | succ remaining ih =>
    have stepped := moves.step progress
    unfold QueueService.drain
    generalize service.step progress = answer at stepped ⊢
    obtain ⟨next, _ | _ | _⟩ := answer
    · exact stepped
    · exact stepped
    · exact moves.trans stepped (ih next)

theorem processQueue (device : Device) (memory : GuestMemory)
    (queue : VirtQueue) : relation device (service.processQueue device memory queue).1.device := by
  unfold QueueService.processQueue
  dsimp only
  split
  · exact moves.refl _
  · split
    · exact moves.refl _
    next availIdx _ =>
      have drained := moves.drain (availIdx - queue.lastAvailIdx).toNat ⟨device, memory, queue, false⟩
      generalize service.drain _ _ = result at drained ⊢
      obtain ⟨progress, _ | _⟩ := result
      · exact drained
      · dsimp only
        repeat' split
        all_goals exact drained

end
end Moves
end QueueService
end Visor
