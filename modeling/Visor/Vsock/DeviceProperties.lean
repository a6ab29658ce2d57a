import Visor.Transport.UsedRingProperties
import Visor.Vsock.Device

/-! TX chains are only read. An RX chain gets the header of a packet in its first descriptor and the
payload in the second one, or behind the header. A header that does not fit is left out. -/

namespace Visor.Vsock
open Library VsockPacket GuestMemory VirtqDesc List
namespace VsockDevice
variable (order : List ConnMapKey) (now : Nat) (memory : GuestMemory) (chain : RxChain)
  (pkt : VsockPacket) (payload : List U8) (queue : VirtQueue)

theorem completes_txService : Completes (txService now) where
  poll _ := rfl
  serve _ memory _ _ := ⟨_, memory, _, _, [], rfl, .refl memory, .nil⟩
  settle device _ _ _ _ := ⟨device, rfl⟩

def rxChainAt (headIdx : U16) : Option RxChain :=
  match queue.descAt memory headIdx with
  | none => none
  | some headerDesc =>
    if headerDesc.hasNext then
      (queue.descAt memory headerDesc.next).map fun dataDesc =>
        ⟨headerDesc, some dataDesc.addr, dataDesc.len.toNat⟩
    else
      let inlineCapacity := headerDesc.len.toNat - vsockPktHdrSize
      some ⟨headerDesc,
        if inlineCapacity > 0 then some (headerDesc.addr + BitVec.ofNat 64 vsockPktHdrSize)
        else none, inlineCapacity⟩

inductive ReadRxChain (memory : GuestMemory) (queue : VirtQueue) (headIdx : U16) :
    Except VsockError RxChain → Prop where
  | missing {error : VsockError} (absent : rxChainAt memory queue headIdx = none) :
    ReadRxChain memory queue headIdx (.error error)
  | found {chain : RxChain} (present : rxChainAt memory queue headIdx = some chain) :
    ReadRxChain memory queue headIdx (.ok chain)

theorem readRxChain_read (headIdx : U16) :
    ReadRxChain memory queue headIdx (readRxChain memory queue headIdx) := by
  unfold readRxChain
  simp only [bind, Except.bind, pure, Except.pure]
  refine (@VirtQueue.readDesc_read VsockError _ memory queue headIdx).casesOn (fun absent => ?_)
    @fun headerDesc present => ?_
  · exact .missing (by simp [rxChainAt, absent])
  · dsimp only
    split
    · next more =>
        refine (@VirtQueue.readDesc_read VsockError _ memory queue headerDesc.next).casesOn
          (fun absent => ?_) @fun _ dataPresent => ?_
        · exact .missing (by simp [rxChainAt, present, more, absent])
        · exact .found (by simp [rxChainAt, present, more, dataPresent])
    · next last => exact .found (by simp [rxChainAt, present, last])

def payloadDesc (headerDesc : VirtqDesc) : Option VirtqDesc :=
  if headerDesc.hasNext then queue.descAt memory headerDesc.next else some headerDesc

/-- The descriptors of an RX chain belong to the chain at the head, and the payload has
its place in one of them. -/
structure InChain (memory : GuestMemory) (queue : VirtQueue) (headIdx : U16) (chain : RxChain) : Prop where
  header : queue.descAt memory headIdx = some chain.headerDesc
  headerMem : chain.headerDesc ∈ queue.chain memory headIdx
  payload : ∃ desc ∈ queue.chain memory headIdx, payloadDesc memory queue chain.headerDesc = some desc ∧
    ∀ addr, chain.payloadAddr = some addr → desc.addr.toNat + desc.len.toNat ≤ 2 ^ 64 →
      ∀ len ≤ chain.maxDataLen, (spanAt addr len).Within desc.buffer

theorem inChain_of_rxChainAt {memory : GuestMemory} {queue : VirtQueue} {headIdx : U16}
    {chain : RxChain} (present : rxChainAt memory queue headIdx = some chain) :
    InChain memory queue headIdx chain := by
  unfold rxChainAt at present
  cases header : queue.descAt memory headIdx with
  | none =>
    rw [header] at present
    cases present
  | some headerDesc =>
    rw [header] at present
    dsimp only at present
    obtain ⟨count, size⟩ := Nat.exists_eq_add_one.mpr (VirtQueue.size_pos_of_descAt header)
    have first : headerDesc ∈ queue.chain memory headIdx := by
      simp [VirtQueue.chain, VirtQueue.descsFrom, header]
    split at present
    · next more =>
        obtain ⟨dataDesc, data, rfl⟩ := Option.map_eq_some_iff.mp present
        have second : dataDesc ∈ queue.chain memory headIdx := by
          simp [VirtQueue.chain, VirtQueue.descsFrom, header, more, size, data]
        refine ⟨header, first, dataDesc, second, by simp [payloadDesc, more, data], ?_⟩
        intro addr found _ len short
        cases found
        unfold Span.Within buffer spanAt
        dsimp only at short ⊢
        omega
    · next last =>
        cases present
        refine ⟨header, first, headerDesc, first, by simp [payloadDesc, last], ?_⟩
        intro addr found fits len short
        dsimp only at found short
        split at found
        · next room =>
            cases found
            have offset : (headerDesc.addr + BitVec.ofNat 64 vsockPktHdrSize).toNat =
              headerDesc.addr.toNat + vsockPktHdrSize := by
              have value : (BitVec.ofNat 64 vsockPktHdrSize).toNat = vsockPktHdrSize := rfl
              rw [BitVec.toNat_add, value, Nat.mod_eq_of_lt (by omega)]
            unfold Span.Within buffer spanAt
            dsimp only
            omega
        · cases found

def RxChain.share : Nat := min payload.length chain.maxDataLen

open RxChain

/-- What is written for a packet: its header if that fits, and its payload. -/
def headerSpans : List Span :=
  if chain.headerDesc.len.toNat ≥ vsockPktHdrSize then
    [spanAt chain.headerDesc.addr vsockPktHdrSize]
  else []

def payloadSpans : List Span :=
  if payload.isEmpty then []
  else
    match chain.payloadAddr with
    | none => []
    | some addr => [spanAt addr (share chain payload)]

def HasRoom : Prop :=
  (chain.headerDesc.len.toNat ≥ vsockPktHdrSize →
    memory.InBounds chain.headerDesc.addr vsockPktHdrSize) ∧
    (payload.isEmpty = false → ∀ addr ∈ chain.payloadAddr, memory.InBounds addr (share chain payload))
deriving Decidable

def reported : Nat := vsockPktHdrSize + if payload.isEmpty then 0 else share chain payload

inductive WrotePacket (memory : GuestMemory) (chain : RxChain) (payload : List U8) :
    GuestMemory × Except VsockError U32 → Prop where
  | failed {after : GuestMemory} {error : VsockError} {spans : List Span}
    (noRoom : ¬ HasRoom memory chain payload) (wrote : memory.Wrote after spans)
      (headerOnly : spans ⊆ headerSpans chain) :
    WrotePacket memory chain payload (after, .error error)
  | placed {after : GuestMemory} {total : U32} (room : HasRoom memory chain payload)
    (wrote : memory.Wrote after (payloadSpans chain payload ++ headerSpans chain))
    (counts : total.toNat = min (reported chain payload) (2 ^ 32 - 1)) :
      WrotePacket memory chain payload (after, .ok total)

/-- The header is written, left out, or refused. -/
inductive WroteHeader (memory : GuestMemory) (chain : RxChain) :
    GuestMemory × Except VsockError Unit → Prop where
  | refused {error : VsockError} (fits : chain.headerDesc.len.toNat ≥ vsockPktHdrSize)
    (outside : ¬ memory.InBounds chain.headerDesc.addr vsockPktHdrSize) :
      WroteHeader memory chain (memory, .error error)
  | passed {after : GuestMemory} (room : chain.headerDesc.len.toNat ≥ vsockPktHdrSize →
    memory.InBounds chain.headerDesc.addr vsockPktHdrSize)
      (wrote : memory.Wrote after (headerSpans chain)) :
      WroteHeader memory chain (after, .ok ())

theorem wroteHeader : WroteHeader memory chain (if chain.headerDesc.len.toNat ≥ vsockPktHdrSize then
    memory.tryWrite chain.headerDesc.addr pkt.toBytes else (memory, .ok ())) := by
  split
  · next fits =>
      refine (@tryWrite_written VsockError _ memory chain.headerDesc.addr pkt.toBytes).casesOn
        (fun outside => ?_) @fun _ inside wrote _ => ?_
      · rw [length_toBytes] at outside
        exact .refused fits outside
      · rw [length_toBytes] at inside wrote
        refine .passed (fun _ => inside) ?_
        rw [headerSpans, if_pos fits]
        exact wrote
  · next short =>
      refine .passed (fun fits => absurd fits short) ?_
      rw [headerSpans, if_neg short]
      exact .refl memory

theorem writePacket_wrote : WrotePacket memory chain payload (writePacket memory chain pkt payload) := by
  unfold writePacket
  have header := wroteHeader memory chain pkt
  generalize (if chain.headerDesc.len.toNat ≥ vsockPktHdrSize then
    memory.tryWrite chain.headerDesc.addr pkt.toBytes
    else (memory, .ok ()) : GuestMemory × Except VsockError Unit) = result at header ⊢
  cases header with
  | refused fits outside => exact .failed (fun room => outside (room.1 fits)) (.refl memory) (nil_subset _)
  | @passed between room wrote =>
    have hdr : (BitVec.ofNat 32 vsockPktHdrSize).toNat = vsockPktHdrSize := rfl
    dsimp only
    by_cases empty : payload.isEmpty = true
    · rw [if_pos empty]
      refine .placed ⟨room, by simp [empty]⟩ ?_ ?_
      · simpa [payloadSpans, empty] using wrote
      · rw [hdr, reported, if_pos empty]
        rfl
    · rw [if_neg empty]
      have total : (saturateU32 (vsockPktHdrSize +
        (saturateU32 (share chain payload)).toNat)).toNat = min (reported chain payload) (2 ^ 32 - 1) := by
        rw [toNat_saturateU32_eq_min, toNat_saturateU32_eq_min, reported, if_neg empty]
        omega
      have shared : min payload.length chain.maxDataLen = share chain payload := rfl
      rw [hdr, shared]
      cases place : chain.payloadAddr with
      | none =>
        refine .placed ⟨room, by simp [place]⟩ ?_ total
        simpa [payloadSpans, empty, place] using wrote
      | some addr =>
        have size : (payload.take (share chain payload)).length = share chain payload := by
          rw [length_take]
          exact Nat.min_eq_left (Nat.min_le_left _ _)
        dsimp only
        refine (@tryWrite_written VsockError _ between addr (payload.take (share chain payload))).casesOn
          (fun outside => ?_) @fun _ inside wrotePayload _ => ?_
        · rw [size, wrote.inBounds_iff] at outside
          refine .failed (fun both => outside (both.2 (by simpa using empty) addr ?_)) wrote
            (List.Subset.refl _)
          simp [place]
        · rw [size] at inside wrotePayload
          rw [wrote.inBounds_iff] at inside
          refine .placed ⟨room, fun _ other is => ?_⟩ ?_ total
          · rw [place] at is
            cases is
            exact inside
          · simpa [payloadSpans, empty, place] using wrote.trans wrotePayload

def rxForecast : Forecast VsockDevice (List ConnMapKey) where
  poll device :=
    let pending := device.pendingKeys order
    (device, if pending.isEmpty then none else some pending)
  entry memory queue pending headIdx device :=
    match rxChainAt memory queue headIdx with
    | none => (device, .fails)
    | some chain =>
      match firstPacket chain.maxDataLen now pending device with
      | (device, none) => (device, .stops)
      | (device, some delivery) =>
        let placed := decide (chain.headerDesc.len.toNat ≥ vsockPktHdrSize)
        (device.settleRx delivery placed,
          if HasRoom memory chain delivery.payload then .completes else .fails)

theorem rxChainAt_eq {before memory : GuestMemory} {queue : VirtQueue}
    (same : SameTable queue before memory) (headIdx : U16) :
    rxChainAt memory queue headIdx = rxChainAt before queue headIdx := by
  unfold rxChainAt
  rw [same.descAt]
  cases queue.descAt before headIdx with
  | none => rfl
  | some =>
    dsimp only
    rw [same.descAt]

section
variable {memory : GuestMemory} {queue : VirtQueue} {headIdx : U16} {chain : RxChain}
  (inChain : InChain memory queue headIdx chain)
include inChain

theorem headerSpans_inBuffers : InBuffers (queue.chain memory headIdx) (headerSpans chain) := by
  unfold headerSpans
  split
  · next fits => exact .single inChain.headerMem fits
  · exact .nil

theorem payloadSpans_inBuffers
    (fits : ∀ desc ∈ queue.chain memory headIdx, desc.addr.toNat + desc.len.toNat ≤ 2 ^ 64)
    (payload : List U8) : InBuffers (queue.chain memory headIdx) (payloadSpans chain payload) := by
  obtain ⟨desc, member, _, place⟩ := inChain.payload
  unfold payloadSpans
  split
  · exact .nil
  · split
    · exact .nil
    · next addr found =>
        intro span only
        rw [mem_singleton.mp only]
        exact ⟨desc, member, place addr found (fits desc member) _ (Nat.min_le_right _ _)⟩

end

theorem foretells_rxService : Foretells (rxForecast order now) (rxService order now) id where
  poll _ := rfl
  takes device before memory queue pending headIdx same clear := by
    simp only [rxService, rxForecast, serveRx, id_eq]
    have read := readRxChain_read memory queue headIdx
    generalize readRxChain memory queue headIdx = outcome at read ⊢
    cases read with
    | missing absent =>
      rw [rxChainAt_eq same] at absent
      rw [absent]
      exact .failed (.refl memory) .nil rfl
    | @found chain present =>
      rw [rxChainAt_eq same] at present
      have inChain := inChain_of_rxChainAt present
      have header := headerSpans_inBuffers inChain
      have payloads := payloadSpans_inBuffers inChain clear.fits
      rw [present]
      dsimp only
      generalize firstPacket chain.maxDataLen now pending device = tried
      obtain ⟨tried, _ | delivery⟩ := tried
      · exact .stopped (.refl memory) .nil rfl
      · dsimp only
        have room : HasRoom memory chain delivery.payload ↔
          HasRoom before chain delivery.payload := by simp only [HasRoom, same.inBounds]
        have outcome := writePacket_wrote memory chain delivery.pkt delivery.payload
        generalize writePacket memory chain delivery.pkt delivery.payload = result at outcome ⊢
        cases outcome with
        | failed noRoom wrote headerOnly =>
          rw [room] at noRoom
          refine .failed wrote ?_ (if_neg noRoom)
          intro span member
          exact header.forChain span (headerOnly member)
        | placed hasRoom wrote =>
          rw [room] at hasRoom
          refine .completed wrote (header.append (payloads _)).forChain fun entered _ => ?_
          refine .completed (.refl entered) .nil ?_
          rw [if_pos hasRoom]
          rfl

end VsockDevice
end Visor.Vsock
