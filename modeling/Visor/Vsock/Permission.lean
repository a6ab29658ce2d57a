import Visor.Transport.Permission
import Visor.Vsock.DeviceProperties

/-! The header and the payload of a packet go into the descriptors of an RX chain without a look at
their flags, and a header that is left out is still reported. -/

namespace Visor.Vsock
open Library List Option VirtqDesc QueueService InBuffers Span
namespace VsockDevice
/-- The header reaches its place, or is left out. -/
def HeaderPasses (memory : GuestMemory) (chain : RxChain) : Prop :=
  chain.headerDesc.len.toNat ≥ vsockPktHdrSize →
    memory.InBounds chain.headerDesc.addr vsockPktHdrSize
deriving Decidable

/-- What header and payload reach is writable, and a packet that is placed has its header
in full. -/
structure RxPermitted (memory : GuestMemory) (queue : VirtQueue) (chain : RxChain)
    (payload : List U8) : Prop where
  header : chain.headerDesc.len.toNat ≥ vsockPktHdrSize →
    memory.InBounds chain.headerDesc.addr vsockPktHdrSize → chain.headerDesc.isWritable = true
  data : HeaderPasses memory chain → payload.isEmpty = false → ∀ addr ∈ chain.payloadAddr,
    0 < RxChain.share chain payload → memory.InBounds addr (RxChain.share chain payload) →
      ∀ desc ∈ payloadDesc memory queue chain.headerDesc, desc.isWritable = true
  whole : HasRoom memory chain payload → chain.headerDesc.len.toNat ≥ vsockPktHdrSize ∨
    2 ^ 32 - 1 ≤ RxChain.share chain payload

/-- What is written for a packet, up to the first write that leaves the memory. -/
def packetSpans (memory : GuestMemory) (chain : RxChain) (payload : List U8) : List Span :=
  if HeaderPasses memory chain then
    (if payload.isEmpty = false → ∀ addr ∈ chain.payloadAddr,
      memory.InBounds addr (RxChain.share chain payload) then payloadSpans chain payload
      else []) ++ headerSpans chain
  else []

variable {memory : GuestMemory} {queue : VirtQueue} {headIdx : U16} {chain : RxChain} {payload : List U8}

theorem hasRoom_iff :
    HasRoom memory chain payload ↔ HeaderPasses memory chain ∧
    (payload.isEmpty = false →
      ∀ addr ∈ chain.payloadAddr, memory.InBounds addr (RxChain.share chain payload)) := Iff.rfl

theorem packetSpans_of_hasRoom (room : HasRoom memory chain payload) :
    packetSpans memory chain payload = payloadSpans chain payload ++ headerSpans chain := by
  obtain ⟨passes, inside⟩ := hasRoom_iff.mp room
  rw [packetSpans, if_pos passes, if_pos inside]

theorem writePacket_packetSpans (memory : GuestMemory) (chain : RxChain) (pkt : VsockPacket)
    (payload : List U8) :
    memory.Wrote (writePacket memory chain pkt payload).1 (packetSpans memory chain payload) := by
  have outcome := writePacket_wrote memory chain pkt payload
  have header := wroteHeader memory chain pkt
  unfold writePacket at outcome ⊢
  generalize (if chain.headerDesc.len.toNat ≥ vsockPktHdrSize then
    memory.tryWrite chain.headerDesc.addr pkt.toBytes
    else (memory, .ok ()) : GuestMemory × Except VsockError Unit) = result at header outcome ⊢
  cases header with
  | refused fits outside =>
    rw [packetSpans, if_neg fun passes => outside (passes fits)]
    exact .refl memory
  | @passed between room wrote =>
    have passes : HeaderPasses memory chain := room
    dsimp only at outcome ⊢
    by_cases room : HasRoom memory chain payload
    · rw [packetSpans_of_hasRoom room]
      generalize (if payload.isEmpty = true then _ else _ : GuestMemory × Except VsockError U32) =
        result at outcome ⊢
      cases outcome with
      | failed noRoom => exact absurd room noRoom
      | placed _ wrote => exact wrote
    · have outside : ¬ (payload.isEmpty = false → ∀ addr ∈ chain.payloadAddr,
        memory.InBounds addr (RxChain.share chain payload)) := fun inside => room ⟨passes, inside⟩
      rw [packetSpans, if_pos passes, if_neg outside]
      have nonempty : ¬ payload.isEmpty = true := fun empty => outside (by simp [empty])
      rw [if_neg nonempty]
      cases place : chain.payloadAddr with
      | none => exact absurd (by simp [place]) outside
      | some addr =>
        have size : (payload.take (RxChain.share chain payload)).length = RxChain.share chain payload := by
          rw [length_take]
          exact Nat.min_eq_left (Nat.min_le_left _ _)
        have shared : min payload.length chain.maxDataLen = RxChain.share chain payload := rfl
        dsimp only
        rw [shared]
        refine (@GuestMemory.tryWrite_written VsockError _ between addr
          (payload.take (RxChain.share chain payload))).casesOn
          (fun _ => ?_) @fun _ inside _ _ => ?_
        · exact wrote
        · rw [size, wrote.inBounds_iff] at inside
          exact absurd (by simp [place, inside]) outside

section
variable (tidy : Tidy memory queue headIdx) (inChain : InChain memory queue headIdx chain)
include tidy inChain

theorem headerSpans_permitted_iff : Permitted queue (queue.chain memory headIdx) (headerSpans chain) ↔
    (chain.headerDesc.len.toNat ≥ vsockPktHdrSize → chain.headerDesc.isWritable = true) := by
  unfold headerSpans
  split
  · next fits =>
      refine ⟨fun permitted _ => ?_, fun writable => ?_⟩
      · refine (tidy.writable_of_permitted inChain.headerMem ?_ ?_ mem_cons_self permitted).1
        · unfold Within area spanAt
          dsimp only
          omega
        · exact Nat.succ_pos _
      · have member : chain.headerDesc ∈ (queue.chain memory headIdx).filter isWritable :=
          mem_filter.mpr ⟨inChain.headerMem, writable fits⟩
        exact (single member fits).permitted
  · next short => exact iff_of_true permitted_nil fun fits => absurd fits short

theorem payloadSpans_within (payload : List U8) :
    ∃ desc ∈ queue.chain memory headIdx, payloadDesc memory queue chain.headerDesc = some desc ∧
    ∀ span ∈ payloadSpans chain payload, span.Within desc.buffer := by
  obtain ⟨desc, member, is, place⟩ := inChain.payload
  refine ⟨desc, member, is, ?_⟩
  intro span inSpans
  unfold payloadSpans at inSpans
  split at inSpans
  · cases inSpans
  · split at inSpans
    · cases inSpans
    · next addr found =>
        rw [mem_singleton.mp inSpans]
        exact place addr found (tidy.clear.fits desc member) _ (Nat.min_le_right _ _)

theorem payloadSpans_permitted_iff :
    Permitted queue (queue.chain memory headIdx) (payloadSpans chain payload) ↔
    (payload.isEmpty = false → ∀ addr ∈ chain.payloadAddr, 0 < RxChain.share chain payload →
      ∀ desc ∈ payloadDesc memory queue chain.headerDesc, desc.isWritable = true) := by
  obtain ⟨desc, member, is, within⟩ := payloadSpans_within tidy inChain payload
  constructor
  · intro permitted nonempty addr place some other isOther
    rw [is] at isOther
    cases isOther
    have written : spanAt addr (RxChain.share chain payload) ∈ payloadSpans chain payload := by
      have place : chain.payloadAddr = Option.some addr := place
      simp [payloadSpans, nonempty, place]
    refine (tidy.writable_of_permitted member ?_ some written permitted).1
    have inBuffer := within _ written
    unfold Within area buffer spanAt at *
    dsimp only at *
    omega
  · intro writable span inSpans address covers
    right
    have inBuffer := within span inSpans
    unfold payloadSpans at inSpans
    split at inSpans
    · cases inSpans
    · next nonempty =>
        split at inSpans
        · cases inSpans
        · next addr place =>
            rw [mem_singleton.mp inSpans] at covers inBuffer
            have some : 0 < RxChain.share chain payload := by
              unfold spanAt Covers at covers
              dsimp only at covers
              omega
            refine ⟨desc, member, writable (by simpa using nonempty) addr place some desc is, ?_⟩
            unfold Within Covers at *
            omega

end

theorem bytesOf_headerSpans (chain : RxChain) : bytesOf (headerSpans chain) =
    if chain.headerDesc.len.toNat ≥ vsockPktHdrSize then vsockPktHdrSize else 0 := by
  unfold headerSpans
  split <;> simp [spanAt]

theorem bytesOf_payloadSpans (present : rxChainAt memory queue headIdx = some chain)
    (payload : List U8) :
    bytesOf (payloadSpans chain payload) = if payload.isEmpty then 0 else RxChain.share chain payload := by
  unfold payloadSpans
  split
  · rfl
  · cases place : chain.payloadAddr with
    | some => simp [spanAt]
    | none =>
      have noRoom : chain.maxDataLen = 0 := by
        unfold rxChainAt at present
        split at present
        · cases present
        · split at present
          · obtain ⟨dataDesc, _, rfl⟩ := map_eq_some_iff.mp present
            cases place
          · cases present
            dsimp only at place ⊢
            split at place
            · cases place
            · omega
      simp [RxChain.share, noRoom]

section
variable (tidy : Tidy memory queue headIdx)
include tidy

theorem reported_le (present : rxChainAt memory queue headIdx = some chain)
    (permitted : RxPermitted memory queue chain payload) (room : HasRoom memory chain payload) :
    min (reported chain payload) (2 ^ 32 - 1) ≤ intoWritable (queue.chain memory headIdx)
    (payloadSpans chain payload ++ headerSpans chain) := by
  have inChain := inChain_of_rxChainAt present
  obtain ⟨passes, inside⟩ := hasRoom_iff.mp room
  have payloadPart : intoWritable (queue.chain memory headIdx) (payloadSpans chain payload) =
    if payload.isEmpty then 0 else RxChain.share chain payload := by
    rw [← bytesOf_payloadSpans present]
    by_cases none : bytesOf (payloadSpans chain payload) = 0
    · have bound := intoWritable_le (queue.chain memory headIdx) (payloadSpans chain payload)
      omega
    · obtain ⟨desc, member, is, within⟩ := payloadSpans_within tidy inChain payload
      apply intoWritable_eq
      intro span inSpans
      refine ⟨desc, mem_filter.mpr ⟨member, ?_⟩, within span inSpans⟩
      rw [bytesOf_payloadSpans present] at none
      split at none
      · exact absurd rfl none
      · next nonempty =>
          have nonempty : payload.isEmpty = false := by simpa using nonempty
          cases place : chain.payloadAddr with
          | none => simp [payloadSpans, place] at inSpans
          | some addr =>
            exact permitted.data passes nonempty addr place (Nat.pos_of_ne_zero none)
              (inside nonempty addr place) desc is
  rw [intoWritable_append, payloadPart]
  unfold reported
  by_cases fits : chain.headerDesc.len.toNat ≥ vsockPktHdrSize
  · have writable : chain.headerDesc ∈ (queue.chain memory headIdx).filter isWritable :=
      mem_filter.mpr ⟨inChain.headerMem, permitted.header fits (passes fits)⟩
    have headerPart : intoWritable (queue.chain memory headIdx) (headerSpans chain) =
      vsockPktHdrSize := by
      rw [headerSpans, if_pos fits]
      exact (single writable fits).intoWritable_eq
    omega
  · have share := (permitted.whole room).resolve_left fits
    have nonempty : ¬ payload.isEmpty = true := by
      intro empty
      have zero : RxChain.share chain payload = 0 := by simp [RxChain.share, List.isEmpty_iff.mp empty]
      omega
    rw [if_neg nonempty]
    omega

private theorem permitted_packetSpans_iff (inChain : InChain memory queue headIdx chain) :
    Permitted queue (queue.chain memory headIdx) (packetSpans memory chain payload) ↔
    (chain.headerDesc.len.toNat ≥ vsockPktHdrSize →
      memory.InBounds chain.headerDesc.addr vsockPktHdrSize → chain.headerDesc.isWritable = true) ∧
    (HeaderPasses memory chain → payload.isEmpty = false →
      ∀ addr ∈ chain.payloadAddr, 0 < RxChain.share chain payload →
      memory.InBounds addr (RxChain.share chain payload) →
      ∀ desc ∈ payloadDesc memory queue chain.headerDesc, desc.isWritable = true) := by
  unfold packetSpans
  by_cases passes : HeaderPasses memory chain
  · rw [if_pos passes, permitted_append, headerSpans_permitted_iff tidy inChain, and_comm]
    refine and_congr
      ⟨fun writable fits _ => writable fits, fun writable fits => writable fits (passes fits)⟩ ?_
    split
    · next inside =>
        rw [payloadSpans_permitted_iff tidy inChain]
        exact ⟨fun writable _ nonempty addr place some _ => writable nonempty addr place some,
          fun writable nonempty addr place some =>
          writable passes nonempty addr place some (inside nonempty addr place)⟩
    · next outside =>
        refine iff_of_true permitted_nil fun _ nonempty addr place _ inside => ?_
        refine absurd (fun _ other is => ?_) outside
        rw [mem_unique is place]
        exact inside
  · rw [if_neg passes]
    refine iff_of_true permitted_nil ⟨fun fits inside => ?_, fun holds => absurd holds passes⟩
    exact absurd (fun _ => inside) passes

theorem respects_iff (order : List ConnMapKey) (now : Nat) (device : VsockDevice)
    (pending : List ConnMapKey) :
    (rxService order now).Respects device memory queue pending headIdx ↔
    ∀ chain ∈ rxChainAt memory queue headIdx,
    ∀ delivery ∈ (firstPacket chain.maxDataLen now pending device).2,
    RxPermitted memory queue chain delivery.payload := by
  have serves : (rxService order now).serve device memory queue pending headIdx =
    device.serveRx memory queue pending headIdx now := rfl
  have read := readRxChain_read memory queue headIdx
  unfold serveRx at serves
  generalize readRxChain memory queue headIdx = outcome at read serves
  cases read with
  | missing absent =>
    rw [respects_iff_of_halted (.inl ⟨_, serves⟩) (.refl memory)]
    exact iff_of_true permitted_nil (by simp [absent])
  | @found chain present =>
    have inChain := inChain_of_rxChainAt present
    simp only [present, mem_some_iff, forall_eq']
    dsimp only at serves
    generalize firstPacket chain.maxDataLen now pending device = tried at serves ⊢
    obtain ⟨tried, _ | delivery⟩ := tried
    · rw [respects_iff_of_halted (.inr serves) (.refl memory)]
      exact iff_of_true permitted_nil nofun
    · simp only [mem_some_iff, forall_eq']
      dsimp only at serves
      have wrote := writePacket_packetSpans memory chain delivery.pkt delivery.payload
      have outcome := writePacket_wrote memory chain delivery.pkt delivery.payload
      generalize writePacket memory chain delivery.pkt delivery.payload = result at outcome wrote serves
      cases outcome with
      | failed noRoom =>
        rw [respects_iff_of_halted (.inl ⟨_, serves⟩) wrote, permitted_packetSpans_iff tidy inChain]
        exact ⟨fun both => ⟨both.1, both.2, fun room => absurd room noRoom⟩, fun permitted =>
          ⟨permitted.header, permitted.data⟩⟩
      | @placed after total room placed counts =>
        have exact := packetSpans_of_hasRoom room
        have confined :
          ForChain (queue.chain memory headIdx) (packetSpans memory chain delivery.payload) := by
          rw [exact]
          exact ((headerSpans_inBuffers inChain).append
            (payloadSpans_inBuffers inChain tidy.clear.fits delivery.payload)).forChain
        rw [respects_iff_of_completed tidy serves wrote confined
          fun entered _ => .refl entered, permitted_packetSpans_iff tidy inChain, counts]
        constructor
        · rintro ⟨_, both, enough⟩
          refine ⟨both.1, both.2, fun _ => ?_⟩
          by_contra short
          obtain ⟨noHeader, few⟩ := not_or.mp short
          have most := intoWritable_le (queue.chain memory headIdx)
            (packetSpans memory chain delivery.payload)
          rw [exact, bytesOf_append, bytesOf_headerSpans, if_neg noHeader,
            bytesOf_payloadSpans present, ← exact] at most
          unfold reported at enough
          have atMost : (if delivery.payload.isEmpty then 0 else
            RxChain.share chain delivery.payload) ≤ RxChain.share chain delivery.payload := by
            split
            · exact Nat.zero_le _
            · exact Nat.le_refl _
          omega
        · intro permitted
          refine ⟨permitted_nil, ⟨permitted.header, permitted.data⟩, ?_⟩
          rw [exact]
          exact reported_le tidy present permitted room

end
end VsockDevice
end Visor.Vsock
