import Mathlib.Data.Finset.Image
import Visor.Muxer.Handshake
import Visor.Vsock.ConnectionProperties
import Visor.Vsock.Traffic

/-! Bridges the connections of the device to the streams of host clients. The kernel's answers to
non-blocking reads and writes are arguments, as is the clock. -/

namespace Visor.Muxer
open Library Vsock

def localPortStart : U32 := 1#32 <<< 30
def localPortEnd : U32 := 1#32 <<< 31
def maxConnections : Nat := 1024
def streamBufSize : Nat := 4096

/-- What a non-blocking call may move: at most so many bytes, where none means that it
would block; or it fails. -/
inductive IoAnswer where
  | upTo (count : Nat)
  | failed
deriving DecidableEq

/-- The muxer's end of a client's stream: bytes read from the client and bytes it wrote
that are not yet read, whether it has closed, and the bytes taken by `try_write`. -/
structure UnixStream where
  read : List U8 := []
  unread : List U8 := []
  closed : Bool := false
  received : List U8 := []
deriving DecidableEq

namespace UnixStream
variable (stream : UnixStream)

def written : List U8 := stream.read ++ stream.unread
def readable : Bool := !stream.unread.isEmpty || stream.closed

/-- An empty result is the end of the stream. -/
def tryRead : IoAnswer → UnixStream × Except IoError (List U8)
  | .failed => (stream, .error .failed)
  | .upTo 0 => (stream, .error .wouldBlock)
  | .upTo (count + 1) =>
    if stream.unread.isEmpty then
      (stream, if stream.closed then .ok [] else .error .wouldBlock)
    else
      let len := min (count + 1) streamBufSize
      ({ stream with
        read := stream.read ++ stream.unread.take len
        unread := stream.unread.drop len },
        .ok (stream.unread.take len))

def tryWrite (data : List U8) : IoAnswer → UnixStream × Except IoError Nat
  | .failed => (stream, .error .failed)
  | .upTo 0 => (stream, .error .wouldBlock)
  | .upTo (count + 1) =>
    ({ stream with received := stream.received ++ data.take (count + 1) },
      .ok (data.take (count + 1)).length)

end UnixStream

structure VsockMuxer where
  guestCid : U64
  streams : KeyedMap ConnMapKey UnixStream
  nextLocalPort : U32
  allocatedPorts : Finset U32

namespace VsockMuxer
def new (guestCid : U64) : VsockMuxer where
  guestCid := guestCid
  streams := ∅
  nextLocalPort := localPortStart
  allocatedPorts := ∅

def portAfter (port : U32) : U32 :=
  if port + 1 ≥ localPortEnd then localPortStart else port + 1

def allocateLoop (start : U32) : Nat → VsockMuxer → VsockMuxer × Except MuxerError U32
  | 0, muxer => (muxer, .error .portExhausted)
  | attempts + 1, muxer =>
    let port := muxer.nextLocalPort
    let muxer := { muxer with nextLocalPort := portAfter port }
    if port ∉ muxer.allocatedPorts then
      ({ muxer with allocatedPorts := insert port muxer.allocatedPorts }, .ok port)
    else if muxer.nextLocalPort = start then (muxer, .error .portExhausted)
    else allocateLoop start attempts muxer

variable (muxer : VsockMuxer) (device : VsockDevice) (deadKeys : List ConnMapKey)

/-- Round-robin allocation of a local port, with one attempt for each port. -/
def allocatePort : VsockMuxer × Except MuxerError U32 :=
  allocateLoop muxer.nextLocalPort (localPortEnd - localPortStart).toNat muxer

/-- What the device lock phase leaves for the later phases of a synchronisation. -/
structure SyncPlan where
  txData : KeyedMap ConnMapKey (List U8)
  deadKeys : List ConnMapKey
  kick : Bool

def updateEach (keys : List ConnMapKey) (update : ConnMapKey → VsockConnection → VsockConnection) :
    VsockDevice := keys.foldl (fun device key => device.updateConnection key (update key)) device

def endsStream : Except IoError (List U8) → Bool
  | .ok [] | .error .failed => true
  | .ok _ | .error .wouldBlock => false

section
variable (muxer : VsockMuxer) (answers : ConnMapKey → IoAnswer)

def readStreams : VsockMuxer :=
  { muxer with
    streams := muxer.streams.filterMap fun key stream => some (stream.tryRead (answers key)).1 }

def readData : KeyedMap ConnMapKey (List U8) :=
  muxer.streams.filterMap fun key stream =>
    match (stream.tryRead (answers key)).2 with
    | .ok [] => none
    | .ok data => some data
    | .error _ => none

def readErrors : List ConnMapKey :=
  muxer.streams.keys.filter fun key => (muxer.streams.lookup key).any fun stream =>
    endsStream (stream.tryRead (answers key)).2

end

def flushed (conn : VsockConnection) : Option (List U8) :=
  match conn.flushTxBuf .vec with
  | (_, sink, .ok count) => if count > 0 then some sink.received else none
  | (_, _, .error _) => none

def readAndUpdateDevice (answers : ConnMapKey → IoAnswer) (now : Nat) :
    VsockMuxer × VsockDevice × SyncPlan :=
  let readData := muxer.readData answers
  let readErrors := muxer.readErrors answers
  let streamKeys := muxer.streams.keys
  let anyHostDataPushed := readData.keys.any fun key => (device.connections.lookup key).isSome
  let device := updateEach device readData.keys fun key conn =>
    conn.pushHostData ((readData.lookup key).getD [])
  let device := updateEach device readErrors fun _ conn => conn.notifyHostClosed
  let txData := muxer.streams.filterMap fun key _ => (device.connections.lookup key).bind flushed
  let device := updateEach device streamKeys fun _ conn => (conn.flushTxBuf .vec).1
  let gone := streamKeys.filter fun key => (device.connections.lookup key).all fun conn =>
    decide (conn.state = .killed)
  let deadKeys := gone ++ readErrors.filter (· ∉ gone)
  let device := device.expireConnections now
  let pendingHostToGuest :=
    device.connections.keys.any fun key => (device.connections.lookup key).any (·.hasPendingRx)
  (muxer.readStreams answers, device,
    { txData := txData
      deadKeys := deadKeys
      kick := anyHostDataPushed || pendingHostToGuest })

/-- Write phase. A failed stream is dead; a stream that would block, or takes only a
part, is left at that. -/
def writeTxToStreams (plan : SyncPlan) (answers : ConnMapKey → IoAnswer) :
    VsockMuxer × List ConnMapKey :=
  let failed := plan.txData.keys.filter fun key => (muxer.streams.lookup key).isSome &&
    decide (answers key = .failed)
  ({ muxer with
    streams := muxer.streams.filterMap fun key stream =>
      match plan.txData.lookup key with
      | none => some stream
      | some data => some (stream.tryWrite data (answers key)).1 },
    plan.deadKeys ++ failed.filter (· ∉ plan.deadKeys))

def forget : VsockMuxer :=
  deadKeys.foldl (fun muxer key =>
    { muxer with
      streams := muxer.streams.erase key
      allocatedPorts := muxer.allocatedPorts.erase key.localPort }) muxer

def cleanupDeadConnections : VsockMuxer × VsockDevice :=
  (muxer.forget deadKeys, deadKeys.foldl VsockDevice.removeConnection device)

def dropPendingConnection (key : ConnMapKey) : VsockMuxer × VsockDevice :=
  ({ muxer with allocatedPorts := muxer.allocatedPorts.erase key.localPort },
    device.removeConnection key)

end VsockMuxer

/-! What the muxer's operations do to one connection, one stream and one port. -/

open VsockDevice KeyedMap List

/-- The answer lets all of the data through. -/
def IoAnswer.Takes (data : List U8) : IoAnswer → Prop
  | .upTo count => data.length ≤ count
  | .failed => data = []

instance (data : List U8) (answer : IoAnswer) : Decidable (answer.Takes data) :=
  by cases answer <;> (unfold IoAnswer.Takes; infer_instance)

namespace UnixStream
theorem received_tryWrite {stream : UnixStream} {data : List U8} {answer : IoAnswer}
    (takes : answer.Takes data) : (stream.tryWrite data answer).1.received = stream.received ++ data := by
  match answer with
  | .failed => simp [tryWrite, show data = [] from takes]
  | .upTo 0 => simp [tryWrite, length_eq_zero_iff.mp (Nat.le_zero.mp takes)]
  | .upTo (count + 1) => simp [tryWrite, take_of_length_le (show data.length ≤ _ from takes)]

variable (stream : UnixStream) (answer : IoAnswer)

@[simp] theorem written_tryRead : (stream.tryRead answer).1.written = stream.written := by
  unfold tryRead
  split
  · rfl
  · rfl
  · split
    · rfl
    · simp [written]

@[simp] theorem received_tryRead : (stream.tryRead answer).1.received = stream.received := by
  unfold tryRead
  split
  · rfl
  · rfl
  · split <;> rfl

end UnixStream

namespace VsockMuxer
theorem allocateLoop_spec (start : U32) (attempts : Nat) (muxer after : VsockMuxer) (port : U32)
    (allocated : allocateLoop start attempts muxer = (after, .ok port)) :
    port ∉ muxer.allocatedPorts ∧ after.allocatedPorts = insert port muxer.allocatedPorts ∧
    after.streams = muxer.streams := by
  induction attempts generalizing muxer with
  | zero => simp [allocateLoop] at allocated
  | succ attempts ih =>
    simp only [allocateLoop] at allocated
    split at allocated
    · next free =>
        simp only [Prod.mk.injEq, Except.ok.injEq] at allocated
        obtain ⟨rfl, rfl⟩ := allocated
        exact ⟨free, rfl, rfl⟩
    · split at allocated
      · simp at allocated
      · exact ih { muxer with nextLocalPort := portAfter muxer.nextLocalPort } allocated

theorem allocatePort_ok {muxer after : VsockMuxer} {port : U32}
    (allocated : muxer.allocatePort = (after, .ok port)) : port ∉ muxer.allocatedPorts ∧
    after.allocatedPorts = insert port muxer.allocatedPorts ∧
    after.streams = muxer.streams := allocateLoop_spec _ _ _ _ _ allocated

private theorem allocateLoop_error (start : U32) (attempts : Nat) (muxer after : VsockMuxer)
    (error : MuxerError) (exhausted : allocateLoop start attempts muxer = (after, .error error)) :
    after.allocatedPorts = muxer.allocatedPorts ∧ after.streams = muxer.streams := by
  induction attempts generalizing muxer with
  | zero =>
    simp only [allocateLoop, Prod.mk.injEq] at exhausted
    obtain ⟨rfl, _⟩ := exhausted
    exact ⟨rfl, rfl⟩
  | succ attempts ih =>
    simp only [allocateLoop] at exhausted
    split at exhausted
    · simp at exhausted
    · split at exhausted
      · simp only [Prod.mk.injEq] at exhausted
        obtain ⟨rfl, _⟩ := exhausted
        exact ⟨rfl, rfl⟩
      · exact ih { muxer with nextLocalPort := portAfter muxer.nextLocalPort } exhausted

theorem allocatePort_error {muxer after : VsockMuxer} {error : MuxerError}
    (exhausted : muxer.allocatePort = (after, .error error)) :
    after.allocatedPorts = muxer.allocatedPorts ∧ after.streams = muxer.streams :=
  allocateLoop_error _ _ _ _ _ exhausted

variable (muxer : VsockMuxer) (device : VsockDevice) (answers : ConnMapKey → IoAnswer) (now : Nat)
  (keys : List ConnMapKey) (conn : VsockConnection) (result : Except IoError (List U8))
  (deadKeys : List ConnMapKey)

theorem view_updateEach {keys : List ConnMapKey} (update : ConnMapKey → VsockConnection →
    VsockConnection) (distinct : keys.Nodup)
    (key : ConnMapKey) : (updateEach device keys update).view key =
    if key ∈ keys then { device.view key with conn := (device.view key).conn.map (update key) }
    else device.view key := by
  induction keys generalizing device with
  | nil => rfl
  | cons first rest ih =>
    obtain ⟨fresh, distinctRest⟩ := nodup_cons.mp distinct
    have later := ih (device.updateConnection first (update first)) distinctRest
    simp only [updateEach, foldl_cons] at later ⊢
    rw [later]
    by_cases same : key = first
    · subst same
      simp [fresh]
    · simp [same]

theorem view_removeEach (key : ConnMapKey) : (keys.foldl removeConnection device).view key =
    if key ∈ keys then { device.view key with conn := none } else device.view key := by
  induction keys generalizing device with
  | nil => rfl
  | cons first rest ih =>
    rw [foldl_cons, ih]
    by_cases same : key = first
    · subst same
      simp
    · simp [same]

theorem view_expireConnections (key : ConnMapKey) : (device.expireConnections now).view key =
    { device.view key with
    conn := (device.view key).conn.filter fun conn => !conn.hasExpired now } := by
  unfold expireConnections
  rw [view_removeEach]
  cases present : device.connections.lookup key with
  | none => simp [present, view]
  | some conn =>
    have member : key ∈ device.connections.keys := (mem_keys_iff _ _).mpr (by simp [present])
    by_cases expired : conn.hasExpired now <;> simp [present, member, expired, view, Option.filter_some]

@[simp] theorem txPermit_removeEach : (keys.foldl removeConnection device).txPermit = device.txPermit := by
  induction keys generalizing device with
  | nil => rfl
  | cons first rest ih => exact ih (device.removeConnection first)

def hostRead : Except IoError (List U8) → VsockConnection
  | .ok [] | .error .failed => conn.notifyHostClosed
  | .ok data => conn.pushHostData data
  | .error .wouldBlock => conn

def synced : VsockConnection := ((hostRead conn result).flushTxBuf .vec).1

section
variable (muxer : VsockMuxer) (answers : ConnMapKey → IoAnswer) (key : ConnMapKey)

theorem lookup_readData : (muxer.readData answers).lookup key =
    (muxer.streams.lookup key).bind fun stream => match (stream.tryRead (answers key)).2 with
    | .ok [] => none
    | .ok data => some data
    | .error _ => none := lookup_filterMap _ _ _

theorem mem_readErrors_iff : key ∈ muxer.readErrors answers ↔
    ((muxer.streams.lookup key).any fun stream => endsStream (stream.tryRead (answers key)).2) = true := by
  simp only [readErrors, mem_filter, mem_keys_iff]
  cases attached : muxer.streams.lookup key with
  | none | some => simp

theorem readErrors_nodup : (muxer.readErrors answers).Nodup := muxer.streams.keys_nodup.filter _

end

section
variable (muxer : VsockMuxer) (device : VsockDevice) (answers : ConnMapKey → IoAnswer)
variable (now : Nat) (key : ConnMapKey)

theorem view_hostReads : ((updateEach (updateEach device (muxer.readData answers).keys fun key conn =>
    conn.pushHostData (((muxer.readData answers).lookup key).getD []))
    (muxer.readErrors answers) fun _ conn => conn.notifyHostClosed).view key) =
    ⟨match muxer.streams.lookup key with
    | none => (device.view key).conn
    | some stream =>
      (device.view key).conn.map (hostRead · (stream.tryRead (answers key)).2),
        (device.view key).ledger⟩ := by
  rw [view_updateEach _ _ (muxer.readErrors_nodup answers),
    view_updateEach _ _ (muxer.readData answers).keys_nodup]
  have data := muxer.lookup_readData answers key
  simp only [mem_keys_iff, mem_readErrors_iff]
  cases attached : muxer.streams.lookup key with
  | none =>
    simp only [attached, Option.bind_none] at data
    simp only [data]
    simp [view]
  | some stream =>
    rw [attached] at data
    simp only [Option.bind_some] at data
    generalize result : (stream.tryRead (answers key)).2 = outcome at data
    obtain (_ | _) | (_ | _) := outcome
    all_goals
      simp only [data]
      simp [result, endsStream, hostRead, view]

theorem view_readAndUpdateDevice : (muxer.readAndUpdateDevice device answers now).2.1.view key =
    ⟨(match muxer.streams.lookup key with
    | none => (device.view key).conn
    | some stream =>
    (device.view key).conn.map (synced · (stream.tryRead (answers key)).2)).filter
    fun conn => !conn.hasExpired now, (device.view key).ledger⟩ := by
  simp only [readAndUpdateDevice]
  rw [view_expireConnections, view_updateEach _ _ muxer.streams.keys_nodup, view_hostReads]
  simp only [mem_keys_iff]
  cases attached : muxer.streams.lookup key with
  | none => simp
  | some =>
    simp only [Option.isSome_some, ↓reduceIte, Option.map_map]
    rfl

@[simp] theorem lookup_streams_readAndUpdateDevice :
    (muxer.readAndUpdateDevice device answers now).1.streams.lookup key =
    (muxer.streams.lookup key).map fun stream => (stream.tryRead (answers key)).1 := by
  simp only [readAndUpdateDevice, readStreams, lookup_filterMap]
  cases muxer.streams.lookup key <;> rfl

end

@[simp] theorem txBuf_hostRead : (hostRead conn result).txBuf = conn.txBuf := by
  unfold hostRead
  split <;> rfl

private theorem flushed_eq :
    flushed conn = if conn.txBuf.len > 0 then some conn.txBuf.contents else none := by
  obtain ⟨txBuf, sink, after, flush, _, _, received⟩ := conn.flushTxBuf_vec
  simp only [flushed, flush, received]

theorem getD_txData (key : ConnMapKey) :
    ((muxer.readAndUpdateDevice device answers now).2.2.txData.lookup key).getD [] =
    if (muxer.streams.lookup key).isSome then ((device.view key).conn.map (·.txBuf.contents)).getD
    [] else [] := by
  have viewed := congrArg ConnView.conn (view_hostReads muxer device answers key)
  simp only [view_conn] at viewed
  simp only [readAndUpdateDevice, lookup_filterMap, viewed, view_conn]
  cases attached : muxer.streams.lookup key with
  | none => rfl
  | some =>
    cases present : device.connections.lookup key with
    | none => rfl
    | some conn =>
      simp only [Option.map_some, Option.bind_some, flushed_eq, txBuf_hostRead, Option.isSome_some,
        ↓reduceIte, Option.getD_some]
      split
      · rfl
      · next empty =>
          have none : conn.txBuf.contents = [] := by
            rw [← length_eq_zero_iff, TxBuf.length_contents]
            omega
          simp [none]

theorem deadKeys_attached {muxer : VsockMuxer} {device : VsockDevice}
    {answers : ConnMapKey → IoAnswer} {now : Nat} {key : ConnMapKey}
    (dead : key ∈ (muxer.readAndUpdateDevice device answers now).2.2.deadKeys) :
    (muxer.streams.lookup key).isSome = true := by
  simp only [readAndUpdateDevice, mem_append, mem_filter] at dead
  rcases dead with ⟨member, _⟩ | ⟨ended, _⟩
  · exact (mem_keys_iff _ _).mp member
  · rw [mem_readErrors_iff] at ended
    cases attached : muxer.streams.lookup key with
    | none => simp [attached] at ended
    | some => rfl

theorem lookup_streams_writeTxToStreams (plan : SyncPlan) (answers : ConnMapKey → IoAnswer)
    (key : ConnMapKey) :
    (muxer.writeTxToStreams plan answers).1.streams.lookup key =
    (muxer.streams.lookup key).map fun stream =>
    (stream.tryWrite ((plan.txData.lookup key).getD []) (answers key)).1 := by
  simp only [writeTxToStreams, lookup_filterMap]
  cases attached : muxer.streams.lookup key with
  | none => rfl
  | some =>
    cases plan.txData.lookup key with
    | some => rfl
    | none =>
      match answers key with
      | .failed => rfl
      | .upTo 0 => rfl
      | .upTo (count + 1) => simp [UnixStream.tryWrite]

theorem deadKeys_writeTxToStreams {muxer : VsockMuxer} {plan : SyncPlan}
    {answers : ConnMapKey → IoAnswer} {key : ConnMapKey}
    (dead : key ∈ (muxer.writeTxToStreams plan answers).2) :
    key ∈ plan.deadKeys ∨ (muxer.streams.lookup key).isSome = true := by
  simp only [writeTxToStreams, mem_append, mem_filter, Bool.and_eq_true] at dead
  rcases dead with planned | ⟨⟨_, attached, _⟩, _⟩
  · exact .inl planned
  · exact .inr attached

@[simp] theorem lookup_streams_forget (key : ConnMapKey) :
    (muxer.forget deadKeys).streams.lookup key = if key ∈ deadKeys then none else
    muxer.streams.lookup key := by
  induction deadKeys generalizing muxer with
  | nil => rfl
  | cons first rest ih =>
    have later := ih { muxer with
      streams := muxer.streams.erase first
      allocatedPorts := muxer.allocatedPorts.erase first.localPort }
    simp only [forget, foldl_cons] at later ⊢
    rw [later]
    by_cases same : key = first <;> simp [same]

theorem mem_allocatedPorts_forget (port : U32) : port ∈ (muxer.forget deadKeys).allocatedPorts ↔
    port ∈ muxer.allocatedPorts ∧ ∀ key ∈ deadKeys, key.localPort ≠ port := by
  induction deadKeys generalizing muxer with
  | nil => simp [forget]
  | cons first rest ih =>
    have later := ih { muxer with
      streams := muxer.streams.erase first
      allocatedPorts := muxer.allocatedPorts.erase first.localPort }
    simp only [forget, foldl_cons] at later ⊢
    rw [later, Finset.mem_erase, forall_mem_cons, ne_comm]
    tauto

end VsockMuxer
end Visor.Muxer
