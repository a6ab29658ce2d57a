import Visor.Memory.GuestMemory

/-! The TX ring buffer refines a bounded queue of bytes: a push appends to its
contents or is refused, a flush moves a prefix of them to the writer. -/

namespace Visor.Vsock
open Library Cells Nat

/-! The bounded 64 KiB buffer for guest-to-host data. Positions are wrapping 32-bit
counters; the storage is allocated by the first push. The stored length never
exceeds the capacity, and positions differ only once storage exists. -/

inductive VsockError where
  | txBufFull
  | txBufFlush (error : IoError)
  | noData
  | memory (error : MemoryError)
  | invalidDescriptor (message : String)
deriving DecidableEq

/-- A writer as one flush meets it: its answer to each successive `write` call.
The bytes it took are kept in `received`. -/
structure Sink where
  respond : Nat → List U8 → Except IoError Nat
  calls : Nat := 0
  received : List U8 := []

namespace Sink
/-- One `write` call. A writer takes a prefix of what it is offered. -/
def write (sink : Sink) (bytes : List U8) : Sink × Except IoError (Fin (bytes.length + 1)) :=
  match sink.respond sink.calls bytes with
  | .error error => ({ sink with calls := sink.calls + 1 }, .error error)
  | .ok answer =>
    ({ sink with
      calls := sink.calls + 1
      received := sink.received ++ bytes.take answer }, .ok ⟨min answer bytes.length, by omega⟩)

def vec : Sink := { respond := fun _ bytes => .ok bytes.length }

end Sink

def connTxBufSize : U32 := 65536

structure TxBuf where
  data : Option (Cells U8)
  head : U32
  tail : U32
  fits : (head - tail).toNat ≤ connTxBufSize.toNat
  allocated : data = none → head = tail

namespace TxBuf
def size : Nat := connTxBufSize.toNat

theorem size_eq : size = 65536 := rfl

def new : TxBuf where
  data := none
  head := 0
  tail := 0
  fits := by decide
  allocated := fun _ => rfl

variable (buf : TxBuf)

def len : Nat := (buf.head - buf.tail).toNat
def isEmpty : Bool := buf.len == 0

theorem len_le : buf.len ≤ 65536 := buf.fits

def push (src : List U8) : Except VsockError TxBuf :=
  if full : buf.len + src.length > size then .error .txBufFull
  else
    let data := buf.data.getD fun _ => 0
    .ok {
      data := some (data.ringWrite size buf.head.toNat src)
      head := buf.head + saturateU32 src.length
      tail := buf.tail
      fits := by
        have bound := toNat_saturateU32 src.length (by simp only [size_eq] at full; omega)
        simp only [len, size_eq, connTxBufSize] at full ⊢
        bv_omega
      allocated := fun impossible => by cases impossible }

def advance (written : Nat) (stored : written ≤ buf.len) : TxBuf where
  data := buf.data
  head := buf.head
  tail := buf.tail + saturateU32 written
  fits := by
    have limit := buf.len_le
    have bound := toNat_saturateU32 written (by omega)
    simp only [len, connTxBufSize] at *
    bv_omega
  allocated := fun absent => by
    have same := buf.allocated absent
    have none : written = 0 := by
      simp only [len, same, BitVec.sub_self, BitVec.toNat_zero] at stored
      omega
    subst none
    simp [same, saturateU32]

/-- The contiguous part of the stored bytes, up to the end of the storage. -/
def frontSegment (data : Cells U8) : List U8 :=
  let tailOfs := buf.tail.toNat % size
  data.read tailOfs (min (size - tailOfs) buf.len)

theorem length_frontSegment_le (data : Cells U8) : (buf.frontSegment data).length ≤ buf.len := by
  simp only [frontSegment, length_read]
  omega

/-- The writes of `flush_to`. The fuel is the stored length, which every complete
write of a segment reduces. -/
def flushLoop : Nat → TxBuf → Sink → TxBuf × Sink × Except VsockError Nat
  | 0, buf, sink => (buf, sink, .ok 0)
  | fuel + 1, buf, sink =>
    if buf.isEmpty then (buf, sink, .ok 0)
    else
      match buf.data with
      | none => (buf, sink, .ok 0)
      | some data =>
        match sink.write (buf.frontSegment data) with
        | (sink, .error error) => (buf, sink, .error (.txBufFlush error))
        | (sink, .ok written) =>
          let rest :=
            buf.advance written
            (Nat.le_trans (le_of_lt_succ written.isLt) (buf.length_frontSegment_le data))
          if written < (buf.frontSegment data).length then (rest, sink, .ok written)
          else
            match flushLoop fuel rest sink with
            | (last, sink, .ok more) => (last, sink, .ok (written + more))
            | (last, sink, .error _) => (last, sink, .ok written)

def flushTo (sink : Sink) : TxBuf × Sink × Except VsockError Nat := flushLoop buf.len buf sink

end TxBuf

open List
namespace Sink
theorem write_received_of_ok {sink after : Sink} {bytes : List U8} {taken : Fin (bytes.length + 1)}
    (written : sink.write bytes = (after, .ok taken)) :
    after.received = sink.received ++ bytes.take taken := by
  unfold write at written
  split at written
  · cases written
  · next answer _ =>
      cases written
      simp only [take_eq_take_min (i := answer)]

theorem write_received_of_error {sink after : Sink} {bytes : List U8} {error : IoError}
    (written : sink.write bytes = (after, .error error)) : after.received = sink.received := by
  unfold write at written
  split at written
  · cases written
    rfl
  · cases written

theorem write_vec {sink : Sink} (willing : sink.respond = vec.respond) (bytes : List U8) :
    ∃ middle, sink.write bytes = (middle, .ok ⟨bytes.length, lt_succ_self _⟩) ∧
    middle.respond = vec.respond := by
  refine ⟨{ sink with
    calls := sink.calls + 1
    received := sink.received ++ bytes.take bytes.length }, ?_, willing⟩
  simp only [write, willing, vec, Nat.min_self]

end Sink

namespace TxBuf
def contents (buf : TxBuf) : List U8 := (buf.data.getD fun _ => 0).ringRead size buf.tail.toNat buf.len

variable (buf : TxBuf) {result : Except VsockError Nat}

@[simp] theorem length_contents : buf.contents.length = buf.len := by simp [contents]

@[simp] theorem contents_new : new.contents = [] := rfl

@[simp] theorem len_new : new.len = 0 := rfl

theorem isEmpty_iff : buf.isEmpty = true ↔ buf.contents = [] := by
  rw [← length_eq_zero_iff, length_contents]
  simp [isEmpty]

theorem head_position : buf.head.toNat % size = (buf.tail.toNat + buf.len) % size := by
  simp only [size_eq, len, BitVec.toNat_sub]
  omega

theorem push_eq_error_iff (src : List U8) (error : VsockError) :
    buf.push src = .error error ↔ 65536 < buf.len + src.length ∧ error = .txBufFull := by
  unfold push
  by_cases full : buf.len + src.length > size
  · rw [dif_pos full]
    simp only [Except.error.injEq, size_eq] at full ⊢
    exact ⟨fun same => ⟨full, same.symm⟩, fun both => both.2.symm⟩
  · rw [dif_neg full]
    simp only [reduceCtorEq, false_iff, size_eq] at full ⊢
    omega

section
variable {buf after : TxBuf} {src : List U8} (pushed : buf.push src = .ok after)
include pushed

theorem len_push : after.len = buf.len + src.length := by
  unfold push at pushed
  split at pushed
  · cases pushed
  · next full =>
      simp only [size_eq] at full
      have bound := toNat_saturateU32 src.length (by omega)
      cases pushed
      simp only [len] at full ⊢
      bv_omega

theorem tail_push : after.tail = buf.tail := by
  unfold push at pushed
  split at pushed
  · cases pushed
  · cases pushed
    rfl

theorem contents_push : after.contents = buf.contents ++ src := by
  have total := len_push pushed
  unfold push at pushed
  split at pushed
  · cases pushed
  · next full =>
      have limit : buf.len + src.length ≤ size := by omega
      cases pushed
      have written := ringRead_ringWrite (buf.data.getD fun _ => 0) size buf.tail.toNat buf.len src limit
      unfold contents
      rw [total, ← written]
      simp only [Option.getD_some, ringWrite, head_position buf]

end

theorem len_advance (written : Nat) (stored : written ≤ buf.len) :
    (buf.advance written stored).len = buf.len - written := by
  have limit := buf.len_le
  have bound := toNat_saturateU32 written (by omega)
  unfold len at limit stored ⊢
  simp only [advance]
  bv_omega

theorem contents_advance (written : Nat) (stored : written ≤ buf.len) :
    (buf.advance written stored).contents = buf.contents.drop written := by
  unfold contents
  rw [drop_ringRead, len_advance]
  apply ringRead_congr
  have limit := buf.len_le
  have bound := toNat_saturateU32 written (by omega)
  simp only [advance, size_eq, BitVec.toNat_add, bound]
  omega

theorem tail_advance (buf : TxBuf) (written : Nat) (stored : written ≤ buf.len) :
    (buf.advance written stored).tail = buf.tail + BitVec.ofNat 32 written := by
  have limit := buf.len_le
  have bound := toNat_saturateU32 written (by omega)
  simp only [advance]
  bv_omega

/-- What one call of `flush_to` does: it hands some prefix of the contents to the
writer and keeps the rest. A reported error means that nothing was taken. -/
structure Flushed (buf after : TxBuf) (sink sunk : Sink) (result : Except VsockError Nat)
    (taken : Nat) : Prop where
  stored : taken ≤ buf.len
  moved : after.tail = buf.tail + BitVec.ofNat 32 taken
  kept : after.contents = buf.contents.drop taken
  received : sunk.received = sink.received ++ buf.contents.take taken
  reported : result = .ok taken ∨
    ∃ error, result = .error (.txBufFlush error) ∧ taken = 0

theorem Flushed.len_eq {buf after : TxBuf} {sink sunk : Sink} {taken : Nat}
    (flushed : Flushed buf after sink sunk result taken) : after.len = buf.len - taken := by
  rw [← length_contents, flushed.kept, length_drop, length_contents]

theorem Flushed.nothing (sink : Sink) : Flushed buf buf sink sink (.ok 0) 0 where
  stored := zero_le _
  moved := by simp
  kept := by simp
  received := by simp
  reported := .inl rfl

theorem frontSegment_eq (data : Cells U8) (present : buf.data = some data) :
    buf.frontSegment data = buf.contents.take (buf.frontSegment data).length := by
  have position : buf.tail.toNat % size < size := mod_lt _ (by decide)
  unfold frontSegment contents
  rw [present, length_read]
  apply read_segment
  · omega
  · omega

theorem frontSegment_pos {buf : TxBuf} {data : Cells U8} (stored : 0 < buf.len) :
    0 < (buf.frontSegment data).length := by
  have position : buf.tail.toNat % size < size := mod_lt _ (by decide)
  simp only [frontSegment, length_read]
  omega

private theorem Flushed.andThen {buf after : TxBuf} {sink middle sunk : Sink} {written : Nat}
    {stored : written ≤ buf.len} {more : Nat}
    (received : middle.received = sink.received ++ buf.contents.take written)
    (rest : Flushed (buf.advance written stored) after middle sunk result more) :
    Flushed buf after sink sunk (.ok (written + more)) (written + more) where
  stored := by
    have bound := rest.stored
    rw [len_advance] at bound
    omega
  moved := by rw [rest.moved, tail_advance, BitVec.ofNat_add, BitVec.add_assoc]
  kept := by rw [rest.kept, contents_advance, drop_drop]
  received := by rw [rest.received, received, contents_advance, append_assoc, take_add]
  reported := .inl rfl

theorem flushLoop_spec (fuel : Nat) (buf : TxBuf) (sink : Sink) :
    ∃ taken, Flushed buf (flushLoop fuel buf sink).1 sink (flushLoop fuel buf sink).2.1
    (flushLoop fuel buf sink).2.2 taken := by
  induction fuel generalizing buf sink with
  | zero => exact ⟨0, .nothing buf sink⟩
  | succ fuel ih =>
    unfold flushLoop
    by_cases empty : buf.isEmpty = true
    · rw [if_pos empty]
      exact ⟨0, .nothing buf sink⟩
    · rw [if_neg empty]
      cases present : buf.data with
      | none => exact ⟨0, .nothing buf sink⟩
      | some data =>
        dsimp only
        generalize answer : sink.write (buf.frontSegment data) = reply
        obtain ⟨middle, outcome⟩ := reply
        cases outcome with
        | error error =>
          refine ⟨0, zero_le _, by simp, rfl, ?_, .inr ⟨error, rfl, rfl⟩⟩
          simpa using Sink.write_received_of_error answer
        | ok written =>
          have bound := written.isLt
          have shorter := buf.length_frontSegment_le data
          have received : middle.received = sink.received ++ buf.contents.take written := by
            have front := congrArg (take written) (frontSegment_eq buf data present)
            rw [take_take, Nat.min_eq_left (by omega)] at front
            rw [Sink.write_received_of_ok answer, front]
          dsimp only
          by_cases short : written.val < (buf.frontSegment data).length
          · rw [if_pos short]
            have stored : written.val ≤ buf.len := by omega
            exact ⟨written, stored, tail_advance buf written stored,
              contents_advance buf written stored, received, .inl rfl⟩
          · rw [if_neg short]
            obtain ⟨more, rest⟩ :=
              ih (buf.advance written (Nat.le_trans (le_of_lt_succ bound) shorter)) middle
            generalize flushLoop fuel _ middle = outcome at rest ⊢
            obtain ⟨last, sunk, result⟩ := outcome
            cases result with
            | ok count =>
              have same : count = more := by
                rcases rest.reported with same | ⟨_, impossible, _⟩
                · exact Except.ok.inj same
                · cases impossible
              subst same
              exact ⟨_, Flushed.andThen received rest⟩
            | error =>
              have none : more = 0 := by
                rcases rest.reported with impossible | ⟨_, _, none⟩
                · cases impossible
                · exact none
              subst none
              exact ⟨_, Flushed.andThen received rest⟩

theorem flushTo_spec (sink : Sink) : ∃ taken, Flushed buf (buf.flushTo sink).1 sink (buf.flushTo sink).2.1
    (buf.flushTo sink).2.2 taken := flushLoop_spec buf.len buf sink

private theorem flushLoop_vec (fuel : Nat) (buf : TxBuf) (sink : Sink)
    (willing : sink.respond = Sink.vec.respond) (enough : buf.len ≤ fuel) :
    (flushLoop fuel buf sink).1.len = 0 := by
  induction fuel generalizing buf sink with
  | zero => simpa [flushLoop] using enough
  | succ fuel ih =>
    unfold flushLoop
    by_cases empty : buf.isEmpty = true
    · rw [if_pos empty]
      simpa [isEmpty] using empty
    · rw [if_neg empty]
      have stored : 0 < buf.len := by
        simp only [isEmpty, beq_iff_eq] at empty
        omega
      cases present : buf.data with
      | none =>
        have same := buf.allocated present
        simp [len, same] at stored
      | some data =>
        have segment := @frontSegment_pos buf data stored
        have shorter := buf.length_frontSegment_le data
        obtain ⟨middle, answer, stays⟩ := Sink.write_vec willing (buf.frontSegment data)
        simp only [answer, Nat.lt_irrefl, ↓reduceIte]
        have rest := ih (buf.advance (buf.frontSegment data).length shorter) middle stays
          (by rw [len_advance]; omega)
        generalize flushLoop fuel _ _ = outcome at rest ⊢
        obtain ⟨last, sunk, result⟩ := outcome
        cases result with
        | ok | error => exact rest

theorem flushTo_vec : (buf.flushTo .vec).1.contents = [] ∧
    (buf.flushTo .vec).2.1.received = buf.contents ∧ (buf.flushTo .vec).2.2 = .ok buf.len := by
  have emptied : (buf.flushTo .vec).1.len = 0 := flushLoop_vec buf.len buf .vec rfl (Nat.le_refl _)
  obtain ⟨taken, flushed⟩ := buf.flushTo_spec .vec
  have nothing : (buf.flushTo .vec).1.contents = [] := by
    rw [← length_eq_zero_iff, length_contents, emptied]
  have all : taken = buf.len := by
    have bound := flushed.stored
    have kept := congrArg length flushed.kept
    rw [nothing, length_drop, length_contents, length_nil] at kept
    omega
  refine ⟨nothing, ?_, ?_⟩
  · rw [flushed.received, all, ← length_contents, take_length]
    rfl
  · rcases flushed.reported with reported | ⟨error, failed, none⟩
    · rw [reported, all]
    · exfalso
      have stored : buf.len = 0 := by omega
      unfold flushTo at failed
      rw [stored] at failed
      cases failed

inductive Operation where
  | push (src : List U8)
  | flushTo (respond : Nat → List U8 → Except IoError Nat)

inductive Answer where
  | pushed (result : Except VsockError Unit)
  | flushed (received : List U8) (result : Except VsockError Nat)

def perform (buf : TxBuf) : Operation → TxBuf × Answer
  | .push src =>
    match buf.push src with
    | .ok after => (after, .pushed (.ok ()))
    | .error error => (buf, .pushed (.error error))
  | .flushTo respond =>
    let (after, sunk, result) := buf.flushTo { respond := respond }
    (after, .flushed sunk.received result)

def trace : TxBuf → List Operation → List (Operation × Answer)
  | _, [] => []
  | buf, operation :: rest => (operation, (buf.perform operation).2) :: trace (buf.perform operation).1 rest

theorem flushLoop_enough {fuel : Nat} {buf : TxBuf} (enough : buf.len ≤ fuel)
    (sink : Sink) : flushLoop fuel buf sink = buf.flushTo sink := by
  have same : ∀ one other buf sink, buf.len ≤ one → buf.len ≤ other →
    flushLoop one buf sink = flushLoop other buf sink := by
    intro one
    induction one with
    | zero =>
      intro other buf sink small _
      have empty : buf.isEmpty = true := by simpa [isEmpty] using small
      cases other with
      | zero => rfl
      | succ => simp only [flushLoop, empty, ↓reduceIte]
    | succ one ih =>
      intro other buf sink first second
      by_cases empty : buf.isEmpty = true
      · cases other with
        | zero | succ => simp only [flushLoop, empty, ↓reduceIte]
      · have stored : 0 < buf.len := by
          simp only [isEmpty, beq_iff_eq] at empty
          omega
        cases other with
        | zero => omega
        | succ other =>
          unfold flushLoop
          rw [if_neg empty, if_neg empty]
          cases buf.data with
          | none => rfl
          | some data =>
            have segment := @frontSegment_pos buf data stored
            dsimp only
            generalize sink.write (buf.frontSegment data) = reply
            obtain ⟨middle, _ | written⟩ := reply
            · rfl
            · dsimp only
              split
              · rfl
              · rw [ih other _ middle (by rw [len_advance]; omega)
                  (by rw [len_advance]; omega)]
  exact same fuel buf.len buf sink enough (Nat.le_refl _)

/-- What a writer takes of two segments that it is offered one after the other. The second is not
offered if it is empty or if the first was not taken whole, and its error is not seen. -/
inductive Takes (respond : Nat → List U8 → Except IoError Nat) (first second : List U8) :
    Except IoError Nat → Prop
  | failed {error : IoError} (refused : respond 0 first = .error error) :
    Takes respond first second (.error error)
  | partly {count : Nat} (answer : respond 0 first = .ok count) (short : count < first.length) :
    Takes respond first second (.ok count)
  | whole {count : Nat} (answer : respond 0 first = .ok count) (all : first.length ≤ count)
    (last : second = [] ∨ ∃ error, respond 1 second = .error error) :
    Takes respond first second (.ok first.length)
  | both {count more : Nat} (answer : respond 0 first = .ok count) (all : first.length ≤ count)
    (goesOn : second ≠ []) (further : respond 1 second = .ok more) :
    Takes respond first second (.ok (first.length + min more second.length))

/-- What a bounded queue of bytes answers that has handed over some bytes before. A writer is offered
the stored bytes, oldest first, in two segments: up to the next multiple of the capacity, and from
there on. It gets as many as it takes. -/
inductive Served (capacity : Nat) : Nat → List U8 → List (Operation × Answer) → Prop
  | done (past : Nat) (stored : List U8) : Served capacity past stored []
  | push {past : Nat} {stored src : List U8} {rest : List (Operation × Answer)}
    (room : stored.length + src.length ≤ capacity)
    (later : Served capacity past (stored ++ src) rest) :
    Served capacity past stored ((.push src, .pushed (.ok ())) :: rest)
  | full {past : Nat} {stored src : List U8} {rest : List (Operation × Answer)}
    (noRoom : capacity < stored.length + src.length) (later : Served capacity past stored rest) :
    Served capacity past stored ((.push src, .pushed (.error .txBufFull)) :: rest)
  | idle {past : Nat} {rest : List (Operation × Answer)}
    {respond : Nat → List U8 → Except IoError Nat} (later : Served capacity past [] rest) :
    Served capacity past [] ((.flushTo respond, .flushed [] (.ok 0)) :: rest)
  | flush {past count : Nat} {stored : List U8} {rest : List (Operation × Answer)}
    {respond : Nat → List U8 → Except IoError Nat} (nonempty : stored ≠ [])
    (takes : Takes respond (stored.take (capacity - past % capacity))
      (stored.drop (capacity - past % capacity)) (.ok count))
    (later : Served capacity (past + count) (stored.drop count) rest) :
    Served capacity past stored
      ((.flushTo respond, .flushed (stored.take count) (.ok count)) :: rest)
  | failed {past : Nat} {stored : List U8} {rest : List (Operation × Answer)}
    {respond : Nat → List U8 → Except IoError Nat} {error : IoError} (nonempty : stored ≠ [])
    (takes : Takes respond (stored.take (capacity - past % capacity))
      (stored.drop (capacity - past % capacity)) (.error error))
    (later : Served capacity past stored rest) :
    Served capacity past stored
      ((.flushTo respond, .flushed [] (.error (.txBufFlush error))) :: rest)

theorem flushTo_empty (buf : TxBuf) (empty : buf.len = 0) (sink : Sink) :
    buf.flushTo sink = (buf, sink, .ok 0) := by
  unfold flushTo
  rw [empty]
  rfl

/-- The stored bytes up to the end of the storage, which a writer is offered first. -/
def offered (buf : TxBuf) : List U8 := buf.contents.take (size - buf.tail.toNat % size)

theorem frontSegment_eq_offered (buf : TxBuf) {data : Cells U8} (present : buf.data = some data) :
    buf.frontSegment data = buf.offered := by
  rw [frontSegment_eq buf data present, offered, take_eq_take_iff, length_contents]
  simp only [frontSegment, length_read]
  omega

theorem exists_data {buf : TxBuf} (stored : 0 < buf.len) : ∃ data, buf.data = some data := by
  cases present : buf.data with
  | none =>
    have same := buf.allocated present
    simp [len, same] at stored
  | some data => exact ⟨data, rfl⟩

/-- One turn of `flush_to`: if all that was offered is taken, the rest is flushed in the same way,
and its error is not seen. -/
theorem flushTo_eq {buf : TxBuf} (stored : 0 < buf.len) {data : Cells U8}
    (present : buf.data = some data) (sink : Sink) :
    buf.flushTo sink =
      match sink.write (buf.frontSegment data) with
      | (sink, .error error) => (buf, sink, .error (.txBufFlush error))
      | (sink, .ok written) =>
        let rest := buf.advance written
          (Nat.le_trans (le_of_lt_succ written.isLt) (buf.length_frontSegment_le data))
        if written < (buf.frontSegment data).length then (rest, sink, .ok written)
        else
          match rest.flushTo sink with
          | (last, sink, .ok more) => (last, sink, .ok (written + more))
          | (last, sink, .error _) => (last, sink, .ok written) := by
  have notEmpty : ¬ buf.isEmpty = true := by
    simp only [isEmpty, beq_iff_eq]
    omega
  have segment := @frontSegment_pos buf data stored
  rw [← flushLoop_enough (Nat.le_succ buf.len) sink, flushLoop, if_neg notEmpty, present]
  dsimp only
  generalize sink.write (buf.frontSegment data) = reply
  obtain ⟨middle, _ | written⟩ := reply
  · rfl
  · dsimp only
    split
    · rfl
    · rw [flushLoop_enough (by rw [len_advance]; omega)]

theorem flushTo_refused {buf : TxBuf} (stored : 0 < buf.len) {sink : Sink} {error : IoError}
    (refused : sink.respond sink.calls buf.offered = .error error) :
    (buf.flushTo sink).2.2 = .error (.txBufFlush error) := by
  obtain ⟨data, present⟩ := exists_data stored
  rw [← frontSegment_eq_offered buf present] at refused
  rw [flushTo_eq stored present, Sink.write, refused]

theorem flushTo_partly {buf : TxBuf} (stored : 0 < buf.len) {sink : Sink} {count : Nat}
    (answer : sink.respond sink.calls buf.offered = .ok count)
    (short : count < buf.offered.length) : (buf.flushTo sink).2.2 = .ok count := by
  obtain ⟨data, present⟩ := exists_data stored
  rw [← frontSegment_eq_offered buf present] at answer short
  rw [flushTo_eq stored present, Sink.write, answer]
  simp [Nat.min_eq_left (Nat.le_of_lt short), short]

private theorem flushTo_whole {buf : TxBuf} (stored : 0 < buf.len) {sink : Sink} {count : Nat}
    (answer : sink.respond sink.calls buf.offered = .ok count)
    (all : buf.offered.length ≤ count) :
    ∃ rest : TxBuf, ∃ middle : Sink, rest.contents = buf.contents.drop buf.offered.length ∧
      rest.tail = buf.tail + BitVec.ofNat 32 buf.offered.length ∧
      middle.respond = sink.respond ∧ middle.calls = sink.calls + 1 ∧
      (buf.flushTo sink).2.2 =
        match (rest.flushTo middle).2.2 with
        | .ok more => .ok (buf.offered.length + more)
        | .error _ => .ok buf.offered.length := by
  obtain ⟨data, present⟩ := exists_data stored
  have shorter := buf.length_frontSegment_le data
  rw [← frontSegment_eq_offered buf present] at answer all ⊢
  refine ⟨buf.advance (buf.frontSegment data).length shorter,
    { sink with
      calls := sink.calls + 1
      received := sink.received ++ (buf.frontSegment data).take count },
    contents_advance .., tail_advance .., rfl, rfl, ?_⟩
  rw [flushTo_eq stored present, Sink.write, answer]
  simp only [Nat.min_eq_right all, Nat.lt_irrefl, if_false]
  generalize TxBuf.flushTo _ _ = outcome
  obtain ⟨last, sunk, result⟩ := outcome
  cases result with
  | ok | error => rfl

private theorem takes_flushTo {buf : TxBuf} (stored : 0 < buf.len)
    (respond : Nat → List U8 → Except IoError Nat) :
    (∃ error, (buf.flushTo { respond }).2.2 = .error (.txBufFlush error) ∧
      Takes respond buf.offered (buf.contents.drop (size - buf.tail.toNat % size))
        (.error error)) ∨
    ∃ count, (buf.flushTo { respond }).2.2 = .ok count ∧
      Takes respond buf.offered (buf.contents.drop (size - buf.tail.toNat % size))
        (.ok count) := by
  cases answer : respond 0 buf.offered with
  | error error => exact .inl ⟨error, flushTo_refused stored answer, .failed answer⟩
  | ok count =>
    right
    by_cases all : buf.offered.length ≤ count
    · have answered : ({ respond } : Sink).respond 0 buf.offered = .ok count := answer
      obtain ⟨rest, middle, contents, tail, same, calls, result⟩ :=
        flushTo_whole stored answered all
      have limit := buf.len_le
      have position : buf.tail.toNat % size < size := mod_lt _ (by decide)
      have length : buf.offered.length = min (size - buf.tail.toNat % size) buf.len := by
        rw [offered, length_take, length_contents]
      have left : rest.len = buf.len - buf.offered.length := by
        rw [← length_contents, contents, length_drop, length_contents]
      by_cases more : rest.len = 0
      · rw [flushTo_empty rest more] at result
        refine ⟨_, result, .whole answer all (.inl ?_)⟩
        exact drop_eq_nil_of_le (by rw [length_contents]; omega)
      · -- The second segment begins where the storage does, so it is all that is left.
        have border : buf.offered.length = size - buf.tail.toNat % size := by omega
        have start : rest.tail.toNat % size = 0 := by
          rw [tail, border, BitVec.toNat_add, BitVec.toNat_ofNat]
          simp only [size_eq] at position ⊢
          omega
        have isSecond : rest.offered = buf.contents.drop (size - buf.tail.toNat % size) := by
          rw [offered, start, contents, border, Nat.sub_zero, take_of_length_le]
          rw [length_drop, length_contents, size_eq]
          omega
        have goesOn : buf.contents.drop (size - buf.tail.toNat % size) ≠ [] := by
          rw [← length_pos_iff, length_drop, length_contents]
          omega
        have positive : 0 < rest.len := by omega
        cases further : respond 1 rest.offered with
        | error error =>
          rw [flushTo_refused positive (by rw [same, calls]; exact further)] at result
          rw [isSecond] at further
          exact ⟨_, result, .whole answer all (.inr ⟨error, further⟩)⟩
        | ok next =>
          have taken : (rest.flushTo middle).2.2 = .ok (min next rest.offered.length) := by
            by_cases short : next < rest.offered.length
            · rw [Nat.min_eq_left (Nat.le_of_lt short)]
              exact flushTo_partly positive (by rw [same, calls]; exact further) short
            · obtain ⟨last, sunk, nothing, _, _, _, finished⟩ :=
                flushTo_whole positive (by rw [same, calls]; exact further) (Nat.le_of_not_lt short)
              have empty : last.len = 0 := by
                rw [← length_contents, nothing, isSecond, contents, border, drop_length]
                rfl
              rw [flushTo_empty last empty] at finished
              rw [Nat.min_eq_right (Nat.le_of_not_lt short)]
              exact finished
          rw [taken] at result
          rw [isSecond] at further result
          exact ⟨_, result, .both answer all goesOn further⟩
    · have short := Nat.lt_of_not_le all
      exact ⟨count, flushTo_partly stored answer short, .partly answer short⟩

private theorem served_trace (buf : TxBuf) (operations : List Operation) {past : Nat}
    (position : buf.tail.toNat % size = past % size) :
    Served 65536 past buf.contents (buf.trace operations) := by
  induction operations generalizing buf past with
  | nil => exact .done _ _
  | cons operation rest ih =>
    unfold trace
    cases operation with
    | push src =>
      simp only [perform]
      cases pushed : buf.push src with
      | error error =>
        obtain ⟨noRoom, rfl⟩ := (push_eq_error_iff buf src error).mp pushed
        exact .full (by rwa [length_contents]) (ih buf position)
      | ok after =>
        have room : buf.contents.length + src.length ≤ 65536 := by
          have limit := after.len_le
          rwa [len_push pushed, ← length_contents] at limit
        have later : Served 65536 past after.contents (after.trace rest) :=
          ih after (by rw [tail_push pushed, position])
        rw [contents_push pushed] at later
        exact .push room later
    | flushTo respond =>
      obtain ⟨taken, flushed⟩ := buf.flushTo_spec { respond := respond }
      have moved : (buf.flushTo { respond }).1.tail.toNat % size = (past + taken) % size := by
        rw [flushed.moved, BitVec.toNat_add, BitVec.toNat_ofNat]
        simp only [size_eq] at position ⊢
        omega
      have later := ih (buf.flushTo { respond }).1 moved
      have received := flushed.received
      rw [flushed.kept] at later
      rw [nil_append] at received
      simp only [perform]
      rw [received]
      by_cases empty : buf.len = 0
      · have nothing : buf.contents = [] := by rw [← length_eq_zero_iff, length_contents, empty]
        obtain rfl : taken = 0 := Nat.le_zero.mp (empty ▸ flushed.stored)
        rw [flushTo_empty buf empty] at later ⊢
        rw [nothing] at later ⊢
        exact .idle later
      · have stored : 0 < buf.len := Nat.pos_of_ne_zero empty
        have nonempty : buf.contents ≠ [] := by
          rw [← length_pos_iff, length_contents]
          exact stored
        have taking := takes_flushTo stored respond
        rw [offered, position] at taking
        rcases taking with ⟨error, result, takes⟩ | ⟨count, result, takes⟩
        · have none : taken = 0 := by
            rcases flushed.reported with impossible | ⟨_, _, none⟩
            · rw [result] at impossible
              cases impossible
            · exact none
          subst none
          rw [result]
          exact .failed nonempty takes later
        · have same : count = taken := by
            rcases flushed.reported with same | ⟨_, impossible, _⟩
            · exact Except.ok.inj (result.symm.trans same)
            · rw [result] at impossible
              cases impossible
          subst same
          rw [result]
          exact .flush nonempty takes later

/-- Whatever is pushed and however the writers behave, the buffer answers like a queue of at most
65536 bytes; and a flush has ended after as many turns as there are bytes. -/
theorem txBuf_refines_queue :
    (∀ operations, Served 65536 0 [] (new.trace operations)) ∧
      ∀ buf sink fuel, buf.len ≤ fuel → flushLoop fuel buf sink = buf.flushTo sink :=
  ⟨fun operations => served_trace new operations rfl,
    fun _ sink _ enough => flushLoop_enough enough sink⟩

end TxBuf
end Visor.Vsock
