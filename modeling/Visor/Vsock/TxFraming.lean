import Visor.Transport.Chain
import Visor.Vsock.Device

/-! A driver may spread the header and the payload of a packet over the descriptors of a chain as it
likes. The device looks for the payload in the second descriptor only. -/

namespace Visor.Vsock
open Library List VsockDevice Option VsockPacket GuestMemory

/-- A chain that ends, with its buffers in memory, and with room for the header in its first
descriptor, which is not for the device to write to. -/
structure HeaderFirst (memory : GuestMemory) (queue : VirtQueue) (headIdx : U16)
    (header : VirtqDesc) (rest : List VirtqDesc) : Prop where
  whole : queue.wholeChain memory headIdx = some (header :: rest)
  inMemory : ∀ desc ∈ header :: rest, memory.InBounds desc.addr desc.len.toNat
  readable : header.isWritable = false
  roomy : vsockPktHdrSize ≤ header.len.toNat

def held (memory : GuestMemory) (desc : VirtqDesc) : List U8 :=
  memory.bytes.read (memory.offsetOf desc.addr) desc.len.toNat

def carried (memory : GuestMemory) (descs : List VirtqDesc) : List U8 :=
  (descs.filter fun desc => !desc.isWritable).flatMap (held memory)

/-- The payload that a chain carries, which is cut off if the chain is too short for it. -/
def carriedPayload (memory : GuestMemory) (descs : List VirtqDesc) (pkt : VsockPacket) : List U8 :=
  ((carried memory descs).drop vsockPktHdrSize).take pkt.len.toNat

/-- A payload that the chain carries whole is passed on, and nothing is if it does not. -/
def PassedWhole (memory : GuestMemory) (queue : VirtQueue) (headIdx : U16) (descs : List VirtqDesc)
    (pkt : VsockPacket) : Prop :=
  if (carriedPayload memory descs pkt).length = pkt.len.toNat then
    readPacket memory queue headIdx = .ok (some (pkt, carriedPayload memory descs pkt))
  else ∀ payload, readPacket memory queue headIdx ≠ .ok (some (pkt, payload))

/-- There is no payload, or all of it stands at the start of the second descriptor. -/
def PayloadSecond (memory : GuestMemory) (header : VirtqDesc) (rest : List VirtqDesc)
    (pkt : VsockPacket) : Prop :=
  let payload := carriedPayload memory (header :: rest) pkt
  payload.length = pkt.len.toNat ∧
    (payload = [] ∨ ∃ second ∈ rest.head?, payload <+: held memory second)

variable {memory : GuestMemory} {queue : VirtQueue} {headIdx : U16} {header : VirtqDesc}
  {rest : List VirtqDesc} {pkt : VsockPacket} {desc : VirtqDesc}

theorem readDesc_of_descAt {idx : U16} (present : queue.descAt memory idx = some desc) :
    (queue.readDesc memory idx : Except VsockError VirtqDesc) = .ok desc := by
  refine (@VirtQueue.readDesc_read VsockError _ memory queue idx).casesOn (fun absent => ?_)
    @fun _ found => ?_
  · simp [present] at absent
  · simpa [present, eq_comm] using found

theorem tryRead_held (inMemory : memory.InBounds desc.addr desc.len.toNat)
    {count : Nat} (fits : count ≤ desc.len.toNat) :
    (memory.tryRead desc.addr count : Except VsockError (List U8)) =
    .ok ((held memory desc).take count) := by
  have read : memory.readBytes desc.addr count = .ok ((held memory desc).take count) := by
    refine readBytes_eq_ok_iff.mpr ⟨⟨inMemory.1, inMemory.2.1, ?_⟩, ?_⟩
    · have bound := inMemory.2.2
      omega
    · obtain ⟨more, total⟩ := Nat.exists_eq_add_of_le fits
      unfold held
      rw [total, Cells.read_append]
      simp
  unfold tryRead
  rw [read]

namespace HeaderFirst
variable (first : HeaderFirst memory queue headIdx header rest)
include first

theorem readPacket_eq
    (isHeader : fromBytes ((held memory header).take vsockPktHdrSize) = some pkt) :
    readPacket memory queue headIdx =
    .ok (some (pkt, (rest.head?.elim [] (held memory)).take pkt.len.toNat)) := by
  have headerRead := tryRead_held (first.inMemory header (.head _)) first.roomy
  have notShort : ¬ header.len.toNat < vsockPktHdrSize := Nat.not_lt.mpr first.roomy
  unfold readPacket
  cases VirtQueue.wholeChain_eq_some_iff.mp first.whole with
  | last present ends =>
    simp [readDesc_of_descAt present, headerRead, notShort, isHeader, ends, bind, Except.bind]
    rfl
  | more present goesOn tail =>
    obtain ⟨second, isSecond, there⟩ : ∃ second ∈ rest.head?, queue.descAt memory header.next =
      some second := by
      cases tail with
      | last later | more later => exact ⟨_, rfl, later⟩
    have payloadRead : (memory.tryRead second.addr (min second.len.toNat pkt.len.toNat) :
      Except VsockError (List U8)) = .ok ((held memory second).take pkt.len.toNat) := by
      rw [tryRead_held (first.inMemory second (.tail _ (mem_of_mem_head? isSecond))) (Nat.min_le_left _ _)]
      simp [held, ← take_take]
    have isHeld : rest.head?.elim [] (held memory) = held memory second := by
      rw [mem_def.mp isSecond]
      rfl
    simp only [readDesc_of_descAt present, headerRead, notShort, isHeader, goesOn, bind,
      Except.bind, readDesc_of_descAt there, payloadRead, if_false, if_true, isHeld]
    split
    · rfl
    · have nothing : pkt.len.toNat = 0 ∨ (held memory second).length = 0 := by
        simp only [held, Cells.length_read]
        omega
      rw [take_eq_nil_iff.mpr (nothing.imp_right length_eq_zero_iff.mp)]
      rfl

end HeaderFirst

/-- RW packets that announce four bytes of payload, in chains of descriptors with these lengths
that lie one behind the other. -/
def layoutMemory (lengths : List Nat) : GuestMemory where
  guestBase := 0
  size := 512
  bytes address := getD
    (flatten (lengths.mapIdx fun index len =>
      toLeBytes 8 (256 + (lengths.take index).sum) ++ toLeBytes 4 len ++
        toLeBytes 2 (if index + 1 < lengths.length then 1 else 0) ++ toLeBytes 2 (index + 1)) ++
      replicate (280 - 16 * lengths.length) 0 ++ [4, 0, 0, 0, 0, 0, 5] ++
      replicate 13 0 ++ [1, 2, 3, 4])
    address 0

def layoutQueue : VirtQueue :=
  { VirtQueue.new 256 with size := 4, ready := true, availRingAddr := 64, usedRingAddr := 128 }

def layoutPacket : VsockPacket := ⟨0, 0, 0, 0, 4, 0, 5, 0, 0, 0⟩

/-- The payload of the packet in descriptors of these lengths does not arrive as it should. -/
def Mangled (lengths : List Nat) : Prop :=
  ∃ header rest, HeaderFirst (layoutMemory lengths) layoutQueue 0 header rest ∧
    ¬ PassedWhole (layoutMemory lengths) layoutQueue 0 (header :: rest) layoutPacket

theorem mangled {lengths : List Nat} {header : VirtqDesc} {rest : List VirtqDesc}
    {payload : List U8} (first : HeaderFirst (layoutMemory lengths) layoutQueue 0 header rest)
    (read : readPacket (layoutMemory lengths) layoutQueue 0 = .ok (some (layoutPacket, payload)))
    (short : payload.length < 4) : Mangled lengths := by
  refine ⟨header, rest, first, ?_⟩
  unfold PassedWhole
  rw [read]
  split
  next complete =>
    simp only [Except.ok.injEq, some.injEq, Prod.mk.injEq, true_and]
    rintro rfl
    exact absurd complete (Nat.ne_of_lt short)
  · exact fun refused => refused payload rfl

end Visor.Vsock
