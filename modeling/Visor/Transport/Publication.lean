import Visor.Transport.UsedRingProperties

/-! The invariant of a pass over a queue whose entries the device takes as forecast: the rings and
the table are as they were, and the used entries written so far hold the heads of the entries
consumed. The used index is written once, at the end of a pass that does not fail. -/

namespace Visor
open Library VirtQueue List Forecast QueueService BitVec GuestMemory
namespace VirtQueue
variable {memory before after : GuestMemory} {queue : VirtQueue}

theorem size_ne_zero_of_pending {count : Nat} (more : count < queue.pending memory) : queue.size ≠ 0 := by
  intro zero
  simp [pending, zero] at more

theorem pending_lt (memory : GuestMemory) (queue : VirtQueue) : queue.pending memory < 2 ^ 16 := by
  unfold pending
  split
  · decide
  · split
    · decide
    · exact isLt _

theorem chain_advanceBy (memory : GuestMemory) (queue : VirtQueue) (count : Nat) (headIdx : U16) :
    (queue.advanceBy count).chain memory headIdx = queue.chain memory headIdx := by
  have same : ∀ idx, (queue.advanceBy count).descAt memory idx = queue.descAt memory idx := fun _ => rfl
  exact descsFrom_congr same _ headIdx

theorem inBounds_of_usedIdx {idx : U16} (seen : queue.usedIdx memory = some idx) :
    memory.InBounds (queue.usedRingAddr + 2) 2 := by
  unfold usedIdx at seen
  cases read : memory.readBytes (queue.usedRingAddr + 2) 2 with
  | error =>
    rw [read] at seen
    cases seen
  | ok => exact (readBytes_eq_ok_iff.mp read).1

theorem mem_pendingHeads {headIdx : U16} {entry : Nat} (more : entry < queue.pending memory)
    (present : (queue.advanceBy entry).availHead memory = some headIdx) :
    headIdx ∈ queue.pendingHeads memory :=
  mem_filterMap.mpr ⟨entry, mem_range.mpr more, present⟩

end VirtQueue

theorem SameTable.advanceBy {queue : VirtQueue} {before after : GuestMemory}
    (same : SameTable queue before after) (count : Nat) : SameTable (queue.advanceBy count) before after :=
  ⟨same.inBounds, same.descAt⟩

/-- The first entries have been consumed, and their used entries written. -/
structure Entered (before : GuestMemory) (queue : VirtQueue) (memory : GuestMemory)
    (count : Nat) : Prop where
  steady : Steady queue before memory
  heads : ∀ entry < count, ∃ headIdx, (queue.advanceBy entry).availHead before = some headIdx ∧
    (queue.advanceBy entry).usedHead memory = some (headIdx.setWidth 32)
  room : ∀ entry < count, (queue.advanceBy entry).CanEnter before

/-- An entry begins with the head it is about. -/
theorem headCell_within (address : U64) : (spanAt address 4).Within (spanAt address 8) := by
  unfold Span.Within spanAt
  dsimp only
  omega

namespace Layout
variable {before memory after : GuestMemory} {queue : VirtQueue} {headIdx : U16} {count : Nat}
  {spans : List Span}

theorem clearOfTable (layout : Layout before queue) (member : headIdx ∈ queue.pendingHeads before) :
    ClearOfTable queue (queue.chain before headIdx) where
  tableFits := layout.tableFits
  fits desc inChain := (layout.buffers headIdx member desc inChain).1
  apart desc inChain := (layout.buffers headIdx member desc inChain).2.2.2

section
variable (layout : Layout before queue) (positive : queue.size ≠ 0)
include layout positive

theorem entered_chain (member : headIdx ∈ queue.pendingHeads before)
    (entered : Entered before queue memory count) (wrote : memory.Wrote after spans)
    (confined : ForChain (queue.chain before headIdx) spans) : Entered before queue after count := by
  have availApart := confined.apart fun desc inChain => (layout.buffers headIdx member desc inChain).2.1
  have usedApart := confined.apart fun desc inChain => (layout.buffers headIdx member desc inChain).2.2.1
  have tableApart := confined.apart fun desc inChain => (layout.buffers headIdx member desc inChain).2.2.2
  have index := queue.usedIdxCell_within layout.usedFits
  refine ⟨entered.steady.trans (.of_wrote layout positive wrote availApart tableApart ?_), ?_, entered.room⟩
  · intro span inSpans
    exact ((usedApart span inSpans).symm.within index).symm
  · intro entry early
    obtain ⟨head, present, seen⟩ := entered.heads entry early
    have cell : (spanAt (queue.advanceBy entry).usedEntryAddr 8).Within queue.usedRing :=
      (queue.advanceBy entry).usedCell_within positive layout.usedFits
    refine ⟨head, present, ?_⟩
    rw [← seen, usedHead, usedHead, wrote.readBytes_eq]
    intro span inSpans
    exact (((usedApart span inSpans).symm.within cell).within (headCell_within _)).symm

theorem same_or_apart (first second : Nat) :
    ((queue.advanceBy first).usedEntryAddr = (queue.advanceBy second).usedEntryAddr ∧
      (queue.advanceBy first).availEntryAddr = (queue.advanceBy second).availEntryAddr) ∨
    (spanAt (queue.advanceBy first).usedEntryAddr 8).Apart
    (spanAt (queue.advanceBy second).usedEntryAddr 8) := by
  by_cases same : (queue.lastUsedIdx + BitVec.ofNat 16 first) % queue.size =
    (queue.lastUsedIdx + BitVec.ofNat 16 second) % queue.size
  · refine .inl ⟨?_, ?_⟩
    · simp only [usedEntryAddr, advanceBy_usedRingAddr, advanceBy_lastUsedIdx, advanceBy_size, same]
    · simp only [availEntryAddr, advanceBy_availRingAddr, advanceBy_lastAvailIdx, advanceBy_size,
        layout.together, same]
  · have different : ((queue.lastUsedIdx + BitVec.ofNat 16 first) % queue.size).toNat ≠
      ((queue.lastUsedIdx + BitVec.ofNat 16 second) % queue.size).toNat :=
      fun equal => same (eq_of_toNat_eq equal)
    have firstAddr := (queue.advanceBy first).toNat_usedEntryAddr positive layout.usedFits
    have secondAddr := (queue.advanceBy second).toNat_usedEntryAddr positive layout.usedFits
    simp only [advanceBy_usedRingAddr, advanceBy_lastUsedIdx, advanceBy_size] at firstAddr secondAddr
    refine .inr ?_
    unfold Span.Apart spanAt
    dsimp only
    omega

theorem steady_used (entered : Entered before queue memory count) (wrote : memory.Wrote after spans)
    (within : ∀ span ∈ spans, span.Within (spanAt (queue.advanceBy count).usedEntryAddr 8)) :
    Steady queue before after := by
  have cell : (spanAt (queue.advanceBy count).usedEntryAddr 8).Within queue.usedRing :=
    (queue.advanceBy count).usedCell_within positive layout.usedFits
  have index : (spanAt (queue.advanceBy count).usedEntryAddr 8).Apart (spanAt (queue.usedRingAddr + 2) 2) :=
    (queue.advanceBy count).usedCell_apart_usedIdx positive layout.usedFits
  apply entered.steady.trans
  refine .of_wrote layout positive wrote ?_ ?_ ?_
  · intro span inSpans
    exact (layout.usedAvail.within cell).within (within span inSpans)
  · intro span inSpans
    exact (layout.usedTable.within cell).within (within span inSpans)
  · intro span inSpans
    exact index.within (within span inSpans)

theorem usedHead_kept (wrote : memory.Wrote after spans)
    (within : ∀ span ∈ spans, span.Within (spanAt (queue.advanceBy count).usedEntryAddr 8))
    (entry : Nat) : ((queue.advanceBy count).usedEntryAddr = (queue.advanceBy entry).usedEntryAddr ∧
    (queue.advanceBy count).availEntryAddr = (queue.advanceBy entry).availEntryAddr) ∨
    (queue.advanceBy entry).usedHead after = (queue.advanceBy entry).usedHead memory := by
  rcases layout.same_or_apart positive count entry with same | apart
  · exact .inl same
  · refine .inr ?_
    rw [usedHead, usedHead, wrote.readBytes_eq]
    intro span inSpans
    exact ((apart.within (within span inSpans)).symm.within (headCell_within _)).symm

end

section
variable (layout : Layout before queue) (positive : queue.size ≠ 0)
  (entered : Entered before queue memory count) (wrote : memory.Wrote after spans)
  (within : ∀ span ∈ spans, span.Within (spanAt (queue.advanceBy count).usedEntryAddr 8))
include layout positive entered wrote within

theorem entered_refused (cannot : ¬ (queue.advanceBy count).CanEnter before) :
    Entered before queue after count := by
  refine ⟨layout.steady_used positive entered wrote within, ?_, entered.room⟩
  intro entry early
  obtain ⟨headIdx, present, seen⟩ := entered.heads entry early
  refine ⟨headIdx, present, ?_⟩
  rcases layout.usedHead_kept positive wrote within entry with ⟨usedSame, _⟩ | kept
  · have fits := entered.room entry early
    rw [VirtQueue.CanEnter, ← usedSame] at fits
    exact absurd fits cannot
  · rw [kept]
    exact seen

theorem entered_used (can : (queue.advanceBy count).CanEnter before)
    (present : (queue.advanceBy count).availHead before = some headIdx)
    (head : (queue.advanceBy count).usedHead after = some (headIdx.setWidth 32)) :
    Entered before queue after (count + 1) := by
  refine ⟨layout.steady_used positive entered wrote within, ?_, ?_⟩
  · intro entry early
    by_cases last : entry = count
    · subst last
      exact ⟨headIdx, present, head⟩
    · obtain ⟨older, olderPresent, seen⟩ := entered.heads entry (by omega)
      refine ⟨older, olderPresent, ?_⟩
      rcases layout.usedHead_kept positive wrote within entry with ⟨usedSame, availSame⟩ | kept
      · have same : headIdx = older := by
          rw [availHead, availSame] at present
          rw [availHead, present] at olderPresent
          exact Option.some.inj olderPresent
        rw [usedHead, ← usedSame, ← same]
        exact head
      · rw [kept]
        exact seen
  · intro entry early
    by_cases last : entry = count
    · subst last
      exact can
    · exact entered.room entry (by omega)

end
end Layout

section
variable {Device Token Note Error State : Type}

structure Reached (before : GuestMemory) (queue : VirtQueue) (count : Nat)
    (progress : Progress Device) : Prop where
  position : progress.queue = queue.advanceBy count
  processed : progress.processed = decide (0 < count)
  entered : Entered before queue progress.memory count

section
variable (view : Device → State) (before : GuestMemory) (queue : VirtQueue) (count : Nat)

inductive Judged : State × Verdict → Progress Device × Except Error (Option Unit) → Prop where
  | completed {next : Progress Device} (reached : Reached before queue (count + 1) next) :
    Judged (view next.device, .completes) (next, .ok (some ()))
  | stopped {state : State} {next : Progress Device} (reached : Reached before queue count next) :
    Judged (state, .stops) (next, .ok none)
  | failed {state : State} {next : Progress Device} {error : Error}
    (reached : Reached before queue count next) : Judged (state, .fails) (next, .error error)
  | failedLate {state : State} {next : Progress Device} {error : Error}
    (reached : Reached before queue (count + 1) next) : Judged (state, .failsLate) (next, .error error)

end

variable [DescriptorErrors Error] {forecast : Forecast State Token}
  {service : QueueService Device Token Note Error} {view : Device → State}
  {before : GuestMemory} {queue : VirtQueue}

theorem step_judged (layout : Layout before queue) (foretold : Foretells forecast service view)
    {count : Nat} {progress : Progress Device} (reached : Reached before queue count progress)
    (more : count < queue.pending before) :
    Judged view before queue count (forecast.judge before progress.queue (view progress.device))
    (service.step progress) := by
  have positive := size_ne_zero_of_pending more
  obtain ⟨device, memory, current, processed⟩ := progress
  obtain ⟨rfl, rfl, entered⟩ := reached
  unfold judge step
  rw [foretold.poll]
  generalize service.poll device = polled
  obtain ⟨device, _ | token⟩ := polled
  · exact .stopped ⟨rfl, rfl, entered⟩
  refine (@readAvailEntry_read Error _ memory (queue.advanceBy count)).casesOn (fun absent => ?_)
    @fun headIdx present => ?_
  · rw [entered.steady.availHead count] at absent
    rw [absent]
    exact .failed ⟨rfl, rfl, entered⟩
  · rw [entered.steady.availHead count] at present
    rw [present]
    dsimp only
    have member := mem_pendingHeads more present
    have clear := layout.clearOfTable member
    have taken := foretold.takes device before memory (queue.advanceBy count) token headIdx
      (entered.steady.table.advanceBy count)
      (by rw [chain_advanceBy]; exact ⟨clear.tableFits, clear.fits, clear.apart⟩)
    rw [chain_advanceBy] at taken
    generalize forecast.entry before (queue.advanceBy count) token headIdx (view device) =
      foreseen at taken ⊢
    obtain ⟨state, verdict⟩ := foreseen
    generalize service.serve device memory (queue.advanceBy count) token headIdx = served at taken ⊢
    cases taken with
    | failed wrote confined foreseen =>
      obtain rfl : verdict = .fails := foreseen
      exact .failed ⟨rfl, rfl, layout.entered_chain positive member entered wrote confined⟩
    | stopped wrote confined foreseen =>
      obtain rfl : verdict = .stops := foreseen
      exact .stopped ⟨rfl, rfl, layout.entered_chain positive member entered wrote confined⟩
    | @completed servedDevice after written note _ wrote confined settles =>
      have served := layout.entered_chain positive member entered wrote confined
      dsimp only
      have outcome : VirtQueue.EnteredUsed after (queue.advanceBy count) headIdx
        ((queue.advanceBy count).writeUsedEntry after headIdx written : GuestMemory × Except Error Unit) :=
        writeUsedEntry_entered after (queue.advanceBy count) positive layout.usedFits headIdx written
      have room : (queue.advanceBy count).CanEnter after ↔ (queue.advanceBy count).CanEnter before := by
        unfold VirtQueue.CanEnter
        rw [served.steady.table.inBounds, served.steady.table.inBounds]
      generalize
        ((queue.advanceBy count).writeUsedEntry after headIdx written : GuestMemory ×
        Except Error Unit) = entry at outcome ⊢
      cases outcome with
      | refused cannot rewrote within =>
        rw [room] at cannot
        have ends : verdict = .completes ∨ verdict = .failsLate := by
          have settled := settles memory (.refl _ _)
          generalize service.settle servedDevice memory _ headIdx note = result at settled
          cases settled with
          | completed _ _ foreseen => exact .inl (congrArg Prod.snd foreseen)
          | failed _ _ foreseen => exact .inr foreseen
        have kept := layout.entered_refused positive served rewrote within cannot
        rcases ends with rfl | rfl <;> dsimp only <;> rw [if_neg cannot] <;>
          exact .failed ⟨rfl, rfl, kept⟩
      | @entered withEntry _ can rewrote within head =>
        rw [room] at can
        have used := layout.entered_used positive served rewrote within can present head
        have same := (entered.steady.table.symm.trans used.steady.table).advanceBy count
        have settled := settles withEntry same
        dsimp only
        rw [advance_advanceBy] at settled ⊢
        generalize service.settle servedDevice withEntry (queue.advanceBy (count + 1)) headIdx
          note = result at settled ⊢
        cases settled with
        | @completed settledDevice final _ finalWrote finalConfined foreseen =>
          obtain ⟨rfl, rfl⟩ := Prod.mk.inj foreseen
          rw [if_pos can]
          have reached :
            Reached before queue (count + 1)
            (⟨settledDevice, final, queue.advanceBy (count + 1), true⟩ : Progress Device) :=
            ⟨rfl, by simp,
              layout.entered_chain positive member used finalWrote finalConfined⟩
          exact .completed reached
        | failed finalWrote finalConfined foreseen =>
          obtain rfl : verdict = .failsLate := foreseen
          dsimp only
          rw [if_pos can]
          exact .failedLate ⟨rfl, by simp,
            layout.entered_chain positive member used finalWrote finalConfined⟩

section
variable (before : GuestMemory) (queue : VirtQueue) (count limit : Nat) (verdicts : List Verdict)

inductive Drained : Progress Device × Except Error Unit → Prop where
  | finished {total : Nat} {progress : Progress Device} (bound : count ≤ total ∧ total ≤ limit)
    (reached : Reached before queue total progress) (noneFails : .fails ∉ verdicts ∧ .failsLate ∉ verdicts)
    (consumes : .completes ∈ verdicts → count < total) : Drained (progress, .ok ())
  | failed {total : Nat} {progress : Progress Device} {error : Error}
    (bound : count ≤ total ∧ total ≤ limit)
    (reached : Reached before queue total progress) (someFails : .fails ∈ verdicts ∨ .failsLate ∈ verdicts)
    (orderly : Orderly verdicts ↔ total = count) : Drained (progress, .error error)

end

theorem drain_drained (layout : Layout before queue) (foretold : Foretells forecast service view)
    {count remaining : Nat} {progress : Progress Device}
    (reached : Reached before queue count progress)
    (enough : count + remaining ≤ queue.pending before) :
    Drained before queue count (count + remaining)
    (forecast.verdicts before remaining progress.queue (view progress.device))
    (service.drain remaining progress) := by
  induction remaining generalizing count progress with
  | zero => exact .finished (by omega) reached (by simp [verdicts]) (by simp [verdicts])
  | succ remaining ih =>
    have judged := step_judged layout foretold reached (by omega)
    unfold verdicts drain
    generalize forecast.judge before progress.queue (view progress.device) = foreseen at judged ⊢
    generalize service.step progress = stepped at judged ⊢
    cases judged with
    | stopped reached => exact .finished (by omega) reached (by simp) (by simp)
    | failed reached | failedLate reached => exact .failed (by omega) reached (by simp) (by simp [Orderly])
    | @completed next further =>
      have rest := ih further (by omega)
      have position : next.queue = progress.queue.advance := by
        rw [further.position, reached.position, advance_advanceBy]
      rw [position] at rest
      dsimp only
      generalize forecast.verdicts before remaining progress.queue.advance (view next.device) =
        verdicts at rest ⊢
      generalize service.drain remaining next = drained at rest ⊢
      cases rest with
      | finished bound final noneFails =>
        exact .finished (by omega) final (by simpa using noneFails) fun _ => by omega
      | failed bound final someFails =>
        refine .failed (by omega) final (by simpa using someFails) ?_
        refine ⟨fun orderly => ?_, fun same => by omega⟩
        rcases someFails with fails | failsLate
        · have alone := orderly.2 (mem_cons_of_mem _ fails)
          simp at alone
        · exact absurd (mem_cons_of_mem _ failsLate) orderly.1

theorem reached_start (before : GuestMemory) (queue : VirtQueue) (device : Device) :
    Reached before queue 0 (⟨device, before, queue, false⟩ : Progress Device) :=
  ⟨by simp, rfl, .refl queue before, nofun, nofun⟩

section
variable {memory : GuestMemory}

theorem published_none (counted : queue.usedIdx before = some queue.lastUsedIdx)
    (entered : Entered before queue memory 0) : queue.Published before memory queue := by
  refine ⟨?_, 0, Nat.zero_le _, by simp, nofun⟩
  rw [entered.steady.usedIdx]
  exact counted

theorem not_published_of_failed {total : Nat} (counted : queue.usedIdx before = some queue.lastUsedIdx)
    (entered : Entered before queue memory total) (bound : total ≤ queue.pending before)
    (some : total ≠ 0) : ¬ queue.Published before memory (queue.advanceBy total) := by
  intro published
  have index : queue.usedIdx memory = _ := published.index
  rw [entered.steady.usedIdx, counted, Option.some.injEq, advanceBy_lastUsedIdx] at index
  have small := queue.pending_lt before
  have value : (BitVec.ofNat 16 total).toNat = total := by rw [toNat_ofNat, Nat.mod_eq_of_lt (by omega)]
  have moved : BitVec.ofNat 16 total = 0 := by
    rw [← BitVec.add_right_inj queue.lastUsedIdx, ← index]
    simp
  rw [moved] at value
  exact some value.symm

theorem InStep.counted {verdicts : List Verdict} (inStep : InStep before queue verdicts)
    (quiet : ¬ (Orderly verdicts ∧ .completes ∈ verdicts)) :
    queue.usedIdx before = some queue.lastUsedIdx :=
  inStep.resolve_right fun publishes => quiet publishes.2

theorem InStep.shown {verdicts : List Verdict} (inStep : InStep before queue verdicts) :
    ∃ index, queue.usedIdx before = some index := by
  rcases inStep with counted | ⟨shown, _⟩
  · exact ⟨_, counted⟩
  · exact Option.isSome_iff_exists.mp shown

private theorem published_of_writeUsedIdx {memory after : GuestMemory} {total : Nat}
    (layout : Layout before queue) (positive : queue.size ≠ 0)
    (entered : Entered before queue memory total) (bound : total ≤ queue.pending before)
    (wrote : memory.Wrote after [spanAt (queue.usedRingAddr + 2) 2])
    (index : (queue.advanceBy total).usedIdx after = some (queue.advanceBy total).lastUsedIdx) :
    queue.Published before after (queue.advanceBy total) := by
  refine ⟨index, total, bound, rfl, ?_⟩
  intro entry early
  obtain ⟨headIdx, present, seen⟩ := entered.heads entry early
  have cell : (spanAt (queue.advanceBy entry).usedEntryAddr 8).Apart (spanAt (queue.usedRingAddr + 2) 2) :=
    (queue.advanceBy entry).usedCell_apart_usedIdx positive layout.usedFits
  refine ⟨headIdx, present, ?_⟩
  rw [← seen, usedHead, usedHead, wrote.readBytes_eq]
  intro span member
  rw [mem_singleton.mp member]
  exact (cell.within (headCell_within _)).symm

theorem published_iff_orderly (layout : queue.pending before ≠ 0 → Layout before queue)
    (foretold : Foretells forecast service view) (device : Device)
    (inStep : InStep before queue (forecast.pass before queue (view device))) :
    queue.Published before (service.processQueue device before queue).1.memory
    (service.processQueue device before queue).1.queue ↔
    Orderly (forecast.pass before queue (view device)) := by
  have start := reached_start before queue device
  have nothing : queue.pending before = 0 →
    (queue.Published before before queue ↔ Orderly (forecast.pass before queue (view device))) := by
    intro none
    have empty : forecast.pass before queue (view device) = [] := by simp [Forecast.pass, none, verdicts]
    rw [empty] at inStep ⊢
    exact iff_of_true (published_none (inStep.counted (by simp)) start.entered) (by decide)
  unfold processQueue
  by_cases idle : (!queue.ready || queue.size == 0) = true
  · rw [if_pos idle]
    exact nothing (by rw [pending, if_pos idle])
  rw [if_neg idle]
  unfold readAvailIdx tryRead
  cases read : before.readBytes (queue.availRingAddr + 2) 2 with
  | error => exact nothing (by rw [pending, if_neg idle, read])
  | ok bytes =>
    dsimp only
    have count :
      queue.pending before = (BitVec.ofNat 16 (leField bytes 0 2) - queue.lastAvailIdx).toNat := by
      rw [pending, if_neg idle, read]
    rw [← count]
    have positive : queue.size ≠ 0 := by
      intro zero
      simp [zero] at idle
    by_cases none : queue.pending before = 0
    · have idle := nothing none
      rw [none]
      exact idle
    have layout := layout none
    have drained := drain_drained layout foretold start (Nat.le_of_eq (Nat.zero_add _))
    rw [Nat.zero_add] at drained
    unfold Forecast.pass at inStep ⊢
    generalize forecast.verdicts before (queue.pending before) queue (view device) =
      verdicts at inStep drained ⊢
    generalize service.drain (queue.pending before) ⟨device, before, queue, false⟩ = result at drained ⊢
    cases drained with
    | @failed total progress _ bound reached someFails orderly =>
      have counted := inStep.counted fun ⟨orderly, completes⟩ => by
        rcases someFails with fails | failsLate
        · simp [orderly.2 fails] at completes
        · exact orderly.1 failsLate
      rw [orderly, reached.position]
      by_cases none : total = 0
      · subst none
        simpa using published_none counted reached.entered
      · exact iff_of_false (not_published_of_failed counted reached.entered bound.2 none) none
    | @finished total progress bound reached noneFails consumes =>
      have orderly : Orderly verdicts := ⟨noneFails.2, fun fails => absurd fails noneFails.1⟩
      refine iff_of_true ?_ orderly
      dsimp only
      rw [reached.processed]
      by_cases none : total = 0
      · subst none
        have counted := inStep.counted fun publishes => absurd (consumes publishes.2) (Nat.lt_irrefl 0)
        have position : progress.queue = queue := by simpa using reached.position
        simpa [position] using published_none counted reached.entered
      · have some : 0 < total := by omega
        have inBounds : progress.memory.InBounds (progress.queue.usedRingAddr + 2) 2 := by
          rw [reached.position, reached.entered.steady.table.inBounds]
          exact inBounds_of_usedIdx inStep.shown.choose_spec
        obtain ⟨after, written, wrote, index⟩ :
          ∃ after, (progress.queue.writeUsedIdx progress.memory : GuestMemory × Except Error Unit) =
            (after, .ok ()) ∧ _ :=
          progress.queue.writeUsedIdx_written progress.memory inBounds
        simp only [some, decide_true, ↓reduceIte, written]
        rw [reached.position] at index wrote ⊢
        exact published_of_writeUsedIdx layout positive reached.entered bound.2 wrote index

end
end
end Visor
