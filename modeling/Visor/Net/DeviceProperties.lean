import Visor.Net.Device
import Visor.Transport.Permission

/-! A received frame goes into the descriptors of a chain one after the other, as far as it needs
them, writable or not. Only the first of them is asked whether it is writable. -/

namespace Visor.Net
open Library VirtQueue QueueService List

namespace NetDevice
theorem completes_txService : Completes txService where
  poll _ := rfl
  serve _ memory _ _ := ⟨_, memory, _, _, [], rfl, .refl memory, .nil⟩
  settle device _ _ _ _ := ⟨device, rfl⟩

def share (remaining : Nat) (desc : VirtqDesc) : Nat := min remaining desc.len.toNat

/-- Bytes of a payload that find a place in the chain from a descriptor on; none if the
chain is broken or leaves the memory before the payload ends. -/
def landing (memory : GuestMemory) (queue : VirtQueue) : Nat → VirtqDesc → Nat → Option Nat
  | 0, _, _ => none
  | allowed + 1, desc, remaining =>
    if 0 < share remaining desc ∧ ¬ memory.InBounds desc.addr (share remaining desc) then none
    else if remaining ≤ share remaining desc ∨ desc.hasNext = false then
      some (share remaining desc)
    else
      match queue.descAt memory desc.next with
      | none => none
      | some next =>
        (landing memory queue allowed next (remaining - share remaining desc)).map
          (share remaining desc + ·)

/-- The descriptors from one on that get a share of a payload, and how much. -/
def takers (memory : GuestMemory) (queue : VirtQueue) : Nat → VirtqDesc → Nat → List (VirtqDesc × Nat)
  | 0, _, _ => []
  | allowed + 1, desc, remaining =>
    if 0 < share remaining desc ∧ ¬ memory.InBounds desc.addr (share remaining desc) then []
    else
      (if 0 < share remaining desc then [(desc, share remaining desc)] else []) ++
        if remaining ≤ share remaining desc ∨ desc.hasNext = false then []
        else
          match queue.descAt memory desc.next with
          | none => []
          | some next => takers memory queue allowed next (remaining - share remaining desc)

def takerSpan (taker : VirtqDesc × Nat) : Span := spanAt taker.1.addr taker.2

section
variable (memory : GuestMemory) (met : List VirtqDesc) (foreseen : Option Nat) (written : U32)

/-- How a payload is written, when the forecast for it is `foreseen`. -/
inductive Landed : GuestMemory × Except NetError U32 → Prop where
  | failed {after : GuestMemory} {error : NetError} {spans : List Span}
    (wrote : memory.Wrote after spans) (inside : InBuffers met spans)
    (breaks : foreseen = none) : Landed (after, .error error)
  | landed {after : GuestMemory} {spans : List Span} {counted : Nat} {result : U32}
    (filled : Filled met memory after spans counted)
    (found : foreseen = some counted)
      (counts : result.toNat = min (written.toNat + counted) (2 ^ 32 - 1)) : Landed (after, .ok result)

end

section
variable (memory : GuestMemory) (desc : VirtqDesc) (count : Nat)

inductive WroteShare : GuestMemory × Except NetError Unit → Prop where
  | refused {error : NetError} (some : 0 < count) (outside : ¬ memory.InBounds desc.addr count) :
    WroteShare (memory, .error error)
  | nothing (zero : count = 0) : WroteShare (memory, .ok ())
  | written {after : GuestMemory} (some : 0 < count) (inside : memory.InBounds desc.addr count)
    (wrote : memory.Wrote after [spanAt desc.addr count]) : WroteShare (after, .ok ())

end

theorem wroteShare (memory : GuestMemory) (desc : VirtqDesc) (remaining : List U8) :
    WroteShare memory desc (share remaining.length desc) (if share remaining.length desc > 0 then
    memory.tryWrite desc.addr (remaining.take (share remaining.length desc)) else (memory, .ok ())) := by
  split
  · next some =>
      have size : (remaining.take (share remaining.length desc)).length = share remaining.length desc := by
        rw [length_take]
        exact Nat.min_eq_left (Nat.min_le_left _ _)
      refine (@GuestMemory.tryWrite_written NetError _ memory desc.addr
        (remaining.take (share remaining.length desc))).casesOn
        (fun outside => ?_) @fun _ inside wrote _ => ?_
      · exact .refused some (size ▸ outside)
      · exact .written some (size ▸ inside) (size ▸ wrote)
  · next none => exact .nothing (by omega)

section
variable {memory after : GuestMemory} {desc : VirtqDesc}

theorem WroteShare.filled {remaining : Nat}
    (wrote : WroteShare memory desc (share remaining desc) (after, .ok ())) :
    (¬ (0 < share remaining desc ∧ ¬ memory.InBounds desc.addr (share remaining desc))) ∧
    ∃ spans, Filled [desc] memory after spans (share remaining desc) := by
  cases wrote with
  | nothing zero =>
    rw [zero]
    exact ⟨fun missing => absurd missing.1 (Nat.lt_irrefl 0), [], .none _ _⟩
  | written some inside wrote =>
    exact ⟨fun missing => missing.2 inside, _, .single mem_cons_self (Nat.min_le_right _ _) wrote⟩

theorem WroteShare.wrote {count : Nat} (wrote : WroteShare memory desc count (after, .ok ())) :
    memory.Wrote after ((if 0 < count then [(desc, count)] else []).map takerSpan).reverse := by
  cases wrote with
  | nothing =>
    rw [if_neg (by omega)]
    exact .refl memory
  | written some _ wrote =>
    rw [if_pos some]
    exact wrote

end

theorem writeRxFrom_landed {before memory : GuestMemory} {queue : VirtQueue}
    (same : SameTable queue before memory) (allowed : Nat) (desc : VirtqDesc)
    (clear : ClearOfTable queue (queue.descsAfter before allowed desc)) (remaining : List U8)
    (written : U32) :
    Landed memory (queue.descsAfter before allowed desc)
    (landing before queue allowed desc remaining.length) written
    (writeRxFrom queue allowed desc memory remaining written) ∧
    memory.Wrote (writeRxFrom queue allowed desc memory remaining written).1
    ((takers before queue allowed desc remaining.length).map takerSpan).reverse := by
  induction allowed generalizing desc memory remaining written with
  | zero => exact ⟨.failed (.refl memory) .nil rfl, .refl memory⟩
  | succ allowed ih =>
    have eaten : min remaining.length desc.len.toNat = share remaining.length desc := rfl
    have outcome := wroteShare memory desc remaining
    have start : queue.descsAfter before (allowed + 1) desc = desc ::
      if desc.hasNext then queue.descsFrom before allowed desc.next else [] := rfl
    unfold writeRxFrom landing takers
    dsimp only
    rw [eaten]
    generalize (if share remaining.length desc > 0 then
      memory.tryWrite desc.addr (remaining.take (share remaining.length desc))
      else (memory, .ok ()) : GuestMemory × Except NetError Unit) = result at outcome ⊢
    obtain ⟨after, _ | _⟩ := result
    · cases outcome with
      | refused some outside =>
        rw [same.inBounds] at outside
        rw [if_pos ⟨some, outside⟩, if_pos ⟨some, outside⟩]
        exact ⟨.failed (.refl memory) .nil rfl, .refl memory⟩
    · obtain ⟨room, spans, filled⟩ := outcome.filled
      rw [same.inBounds] at room
      have exactly := outcome.wrote
      have subset : [desc] ⊆ queue.descsAfter before (allowed + 1) desc := by simp [start]
      have kept := clear.same filled.wrote (filled.inside.mono subset).forChain
      have counts : (saturateU32 (written.toNat +
        (saturateU32 (share remaining.length desc)).toNat)).toNat =
          min (written.toNat + share remaining.length desc) (2 ^ 32 - 1) := by
        rw [toNat_saturateU32_eq_min, toNat_saturateU32_eq_min]
        omega
      rw [if_neg room, if_neg room, map_append, reverse_append]
      dsimp only
      by_cases last : remaining.length ≤ share remaining.length desc ∨ desc.hasNext = false
      · have ends : ((remaining.drop (share remaining.length desc)).isEmpty || !desc.hasNext) =
          true := by simpa using last
        rw [if_pos last, if_pos last, if_pos ends]
        exact ⟨.landed (filled.mono subset) rfl counts, exactly⟩
      · have goesOn : ¬ ((remaining.drop (share remaining.length desc)).isEmpty || !desc.hasNext) =
          true := by simpa using last
        have more : desc.hasNext = true := by simpa using (not_or.mp last).2
        rw [if_neg last, if_neg last, if_neg goesOn]
        refine (@readDesc_read NetError _ after queue desc.next).casesOn (fun absent => ?_)
          @fun next present => ?_
        · rw [(same.trans kept).descAt] at absent
          rw [absent]
          exact ⟨.failed filled.wrote (filled.inside.mono subset) rfl, exactly⟩
        · rw [(same.trans kept).descAt] at present
          rw [present]
          have tail : queue.descsAfter before allowed next ⊆
            queue.descsAfter before (allowed + 1) desc := by
            rw [start, if_pos more, descsFrom_eq_descsAfter present]
            exact subset_cons_self _ _
          obtain ⟨rest, later⟩ := ih (same.trans kept) next (clear.mono tail)
            (remaining.drop (share remaining.length desc))
            (saturateU32 (written.toNat + (saturateU32 (share remaining.length desc)).toNat))
          rw [length_drop] at rest later
          refine ⟨?_, exactly.trans later⟩
          dsimp only
          generalize writeRxFrom queue allowed next after
            (remaining.drop (share remaining.length desc)) _ = result at rest ⊢
          cases rest with
          | failed wrote inside breaks =>
            refine .failed (filled.wrote.trans wrote)
              ((filled.inside.mono subset).append (inside.mono tail)) ?_
            rw [breaks]
            rfl
          | landed later found sum =>
            refine .landed ((filled.mono subset).append (later.mono tail)) ?_ ?_
            · rw [found]
              rfl
            · rw [sum, counts]
              omega

def rxForecast : Forecast NetDevice (List U8) where
  poll device := device.recvFrame
  entry memory queue frame headIdx device :=
    match queue.descAt memory headIdx with
    | none => (device, .fails)
    | some headerDesc =>
      if !headerDesc.isWritable then (device, .stops)
      else
        match landing memory queue queue.size.toNat headerDesc (vnetHdrSize + frame.length) with
        | none => (device, .fails)
        | some total => (device, if total = 0 then .stops else .completes)

theorem foretells_rxService : Foretells rxForecast rxService id where
  poll _ := rfl
  takes device before memory queue frame headIdx same clear := by
    simp only [rxService, rxForecast, serveRx, id_eq]
    refine (@readDesc_read NetError _ memory queue headIdx).casesOn (fun absent => ?_)
      @fun headerDesc present => ?_
    · rw [same.descAt] at absent
      rw [absent]
      exact .failed (.refl memory) .nil rfl
    · rw [same.descAt] at present
      rw [present]
      by_cases isWritable : headerDesc.isWritable = true
      · simp only [isWritable, Bool.not_true, Bool.false_eq_true, ↓reduceIte]
        have subset : queue.descsAfter before queue.size.toNat headerDesc ⊆ queue.chain before headIdx := by
          rw [← descsFrom_eq_descsAfter present]
          exact descsFrom_subset_chain before queue headIdx
        have landed :=
          (writeRxFrom_landed same queue.size.toNat headerDesc (clear.mono subset)
          (replicate vnetHdrSize 0 ++ frame) 0).1
        have size : (replicate vnetHdrSize (0 : U8) ++ frame).length = vnetHdrSize + frame.length := by simp
        rw [size] at landed
        unfold writeRxChain
        generalize writeRxFrom queue queue.size.toNat headerDesc memory
          (replicate vnetHdrSize 0 ++ frame) 0 = result at landed ⊢
        cases landed with
        | failed wrote inside breaks =>
          rw [breaks]
          exact .failed wrote (inside.mono subset).forChain rfl
        | @landed after spans counted result filled found counts =>
          have zero : result = 0 ↔ counted = 0 := by
            rw [← BitVec.toNat_inj, counts]
            change min (0 + counted) (2 ^ 32 - 1) = 0 ↔ counted = 0
            omega
          have confined := (filled.inside.mono subset).forChain
          rw [found]
          dsimp only
          by_cases none : counted = 0
          · rw [if_pos none, if_pos (zero.mpr none)]
            exact .stopped filled.wrote confined rfl
          · rw [if_neg none, if_neg (mt zero.mp none)]
            refine .completed filled.wrote confined fun entered _ => ?_
            exact .completed (.refl entered) .nil rfl
      · simp only [isWritable, Bool.not_false, ↓reduceIte]
        exact .stopped (.refl memory) .nil rfl

/-- Every descriptor that the frame reaches is writable, if the first one is. -/
def RxPermitted (memory : GuestMemory) (queue : VirtQueue) (headIdx : U16) (frame : List U8) : Prop :=
  ∀ headerDesc ∈ queue.descAt memory headIdx, headerDesc.isWritable = true →
    ∀ taker ∈ takers memory queue queue.size.toNat headerDesc (vnetHdrSize + frame.length),
      taker.1.isWritable = true

variable {before memory : GuestMemory} {queue : VirtQueue} {headIdx : U16}

theorem takers_met (memory : GuestMemory) (queue : VirtQueue) (allowed : Nat) (desc : VirtqDesc)
    (remaining : Nat) : ∀ taker ∈ takers memory queue allowed desc remaining,
    taker.1 ∈ queue.descsAfter memory allowed desc ∧ 0 < taker.2 ∧ taker.2 ≤ taker.1.len.toNat := by
  induction allowed generalizing desc remaining with
  | zero => nofun
  | succ allowed ih =>
    intro taker member
    unfold takers at member
    split at member
    · cases member
    · rcases mem_append.mp member with here | later
      · split at here
        · next some =>
            rw [mem_singleton.mp here]
            exact ⟨mem_cons_self, some, Nat.min_le_right _ _⟩
        · cases here
      · split at later
        · cases later
        · next goesOn =>
            split at later
            · cases later
            · next next present =>
                obtain ⟨met, size⟩ := ih next _ taker later
                have more : desc.hasNext = true := by simpa using (not_or.mp goesOn).2
                refine ⟨?_, size⟩
                rw [descsAfter, if_pos more, descsFrom_eq_descsAfter present]
                exact mem_cons_of_mem _ met

theorem takerSpan_within {taker : VirtqDesc × Nat} (fits : taker.2 ≤ taker.1.len.toNat) :
    (takerSpan taker).Within taker.1.buffer := by
  unfold takerSpan VirtqDesc.buffer spanAt Span.Within
  dsimp only
  omega

variable {takers : List (VirtqDesc × Nat)}

theorem inBuffers_takers {descs : List VirtqDesc}
    (met : ∀ taker ∈ takers, taker.1 ∈ descs ∧ 0 < taker.2 ∧ taker.2 ≤ taker.1.len.toNat)
    (writable : ∀ taker ∈ takers, taker.1.isWritable = true) :
    InBuffers (descs.filter VirtqDesc.isWritable) (takers.map takerSpan).reverse := by
  intro span member
  obtain ⟨taker, inTakers, rfl⟩ := mem_map.mp (mem_reverse.mp member)
  obtain ⟨inDescs, _, fits⟩ := met taker inTakers
  exact ⟨taker.1, mem_filter.mpr ⟨inDescs, writable taker inTakers⟩, takerSpan_within fits⟩

private theorem permitted_takers_iff (tidy : Visor.Tidy memory queue headIdx)
    (met : ∀ taker ∈ takers, taker.1 ∈ queue.chain memory headIdx ∧ 0 < taker.2 ∧
      taker.2 ≤ taker.1.len.toNat) : Permitted queue (queue.chain memory headIdx)
    (takers.map takerSpan).reverse ↔ ∀ taker ∈ takers, taker.1.isWritable = true := by
  constructor
  · intro permitted taker inTakers
    obtain ⟨inChain, some, fits⟩ := met taker inTakers
    have within : (takerSpan taker).Within taker.1.area := by
      unfold takerSpan VirtqDesc.area spanAt Span.Within
      dsimp only
      omega
    have written : takerSpan taker ∈ (takers.map takerSpan).reverse :=
      mem_reverse.mpr (mem_map_of_mem inTakers)
    exact (tidy.writable_of_permitted inChain within some written permitted).1
  · intro writable
    exact (inBuffers_takers met writable).permitted

theorem respects_iff (tidy : Visor.Tidy memory queue headIdx) (device : NetDevice) (frame : List U8) :
    rxService.Respects device memory queue frame headIdx ↔ RxPermitted memory queue headIdx frame := by
  have read : ReadDesc memory queue headIdx (queue.readDesc memory headIdx : Except NetError VirtqDesc) :=
    readDesc_read memory queue headIdx
  have serves : rxService.serve device memory queue frame headIdx =
    (device, (serveRx memory queue frame headIdx).1, (serveRx memory queue frame headIdx).2) := rfl
  unfold serveRx at serves
  generalize (queue.readDesc memory headIdx : Except NetError VirtqDesc) = outcome at read serves
  cases read with
  | missing absent =>
    rw [respects_iff_of_halted (.inl ⟨_, serves⟩) (.refl memory)]
    exact iff_of_true permitted_nil (by simp [RxPermitted, absent])
  | @found headerDesc present =>
    by_cases isWritable : headerDesc.isWritable = true
    · simp only [isWritable, Bool.not_true, Bool.false_eq_true, ↓reduceIte] at serves
      have subset : queue.descsAfter memory queue.size.toNat headerDesc ⊆ queue.chain memory headIdx := by
        rw [← descsFrom_eq_descsAfter present]
        exact descsFrom_subset_chain memory queue headIdx
      have size : (replicate vnetHdrSize (0 : U8) ++ frame).length = vnetHdrSize + frame.length := by simp
      obtain ⟨landed, wrote⟩ := writeRxFrom_landed (.refl queue memory) queue.size.toNat headerDesc
        (tidy.clear.mono subset) (replicate vnetHdrSize 0 ++ frame) 0
      have met := takers_met memory queue queue.size.toNat headerDesc (vnetHdrSize + frame.length)
      rw [size] at landed wrote
      have permission : RxPermitted memory queue headIdx frame ↔
        ∀ taker ∈ takers memory queue queue.size.toNat headerDesc (vnetHdrSize + frame.length),
          taker.1.isWritable = true := by
        simp [RxPermitted, present, isWritable]
      have inChain : ∀ taker ∈ takers memory queue queue.size.toNat headerDesc
        (vnetHdrSize + frame.length), taker.1 ∈ queue.chain memory headIdx ∧ 0 < taker.2 ∧
          taker.2 ≤ taker.1.len.toNat := by
        intro taker member
        obtain ⟨reached, size⟩ := met taker member
        exact ⟨subset reached, size⟩
      rw [permission]
      unfold writeRxChain at serves
      generalize takers memory queue queue.size.toNat headerDesc (vnetHdrSize + frame.length) =
        reached at wrote inChain ⊢
      generalize writeRxFrom queue queue.size.toNat headerDesc memory
        (replicate vnetHdrSize 0 ++ frame) 0 = result at landed wrote serves
      cases landed with
      | failed =>
        rw [respects_iff_of_halted (.inl ⟨_, serves⟩) wrote]
        exact permitted_takers_iff tidy inChain
      | @landed after spans counted result filled _ counts =>
        have same : spans = (reached.map takerSpan).reverse := by
          rw [← filled.wrote.writesSince, wrote.writesSince]
        dsimp only at serves wrote
        by_cases none : result = 0
        · rw [if_pos none] at serves
          rw [respects_iff_of_halted (.inr serves) wrote]
          exact permitted_takers_iff tidy inChain
        · rw [if_neg none] at serves
          have confined := (filled.inside.mono subset).forChain
          rw [same] at confined
          rw [respects_iff_of_completed tidy serves wrote confined fun entered _ => .refl entered,
            permitted_takers_iff tidy inChain]
          refine ⟨fun respects => respects.2.1, fun writable => ⟨permitted_nil, writable, ?_⟩⟩
          have sum := filled.counts
          rw [(inBuffers_takers inChain writable).intoWritable_eq, ← same, counts]
          change min (0 + counted) (2 ^ 32 - 1) ≤ _
          omega
    · simp only [isWritable, Bool.not_false, ↓reduceIte] at serves
      rw [respects_iff_of_halted (.inr serves) (.refl memory)]
      exact iff_of_true permitted_nil (by simp [RxPermitted, present, isWritable])

end NetDevice
end Visor.Net
