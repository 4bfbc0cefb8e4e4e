import MsquicAsync.Lib.Loops
import MsquicAsync.Stream.State

/-!
# Reading from a stream

The three read paths share `pollReadGeneric` and differ in what they do with the
queue. `poll_read` and `poll_read_buf` run one loop (`readLoop`): fill the
destination from the front buffer, and pop the buffer once it is used up. A
popped buffer is completed when it is dropped, after the lock is released.
-/

namespace MsquicAsync

open Ranges Loops

inductive ReadStatus (α : Type) where
  | readable (read : α)
  | finished (read : Option α)
  | blocked (read : Option α)
  deriving DecidableEq

/-- `ReadStatus::from`. -/
def ReadStatus.ofPair {α : Type} : Option α × Bool → ReadStatus α
  | (read, true) => .finished read
  | (read, false) => .blocked read

/-- A read function's answer: its status, the queue it leaves, and the buffers it popped. -/
structure ReadFn (α : Type) where
  status : ReadStatus α
  recvBuffers : List StreamRecvBuffer
  readCompleteBuffers : List StreamRecvBuffer

/-! ## The read loop -/

/-- The locals of the loop over a destination of `n` bytes, and the queue it works on. -/
structure ReadLoop (n : Nat) where
  recvBuffers : List StreamRecvBuffer
  readCompleteBuffers : List StreamRecvBuffer
  fin : Bool
  /-- What has been copied to the destination. -/
  read : Bytes
  /-- A slice has been copied, if only an empty one. -/
  copied : Bool
  read_le : read.length ≤ n

namespace ReadLoop

variable {n : Nat}

def start (n : Nat) (recvBuffers : List StreamRecvBuffer) : ReadLoop n where
  recvBuffers := recvBuffers
  readCompleteBuffers := []
  fin := false
  read := []
  copied := false
  read_le := Nat.zero_le n

theorem length_append_le {s : ReadLoop n} {b b' : StreamRecvBuffer} {slice : Bytes}
    (h : b.getBytesUptoSize (n - s.read.length) = some (slice, b')) :
    (s.read ++ slice).length ≤ n := by
  have h1 := (StreamRecvBuffer.getBytesUptoSize_unread h).2
  have h2 := s.read_le
  rw [List.length_append]
  omega

/-- One iteration; `got` is the test whether there is something to return when the queue
runs empty. -/
def body (got : ReadLoop n → Bool) (s : ReadLoop n) : ReadLoop n ⊕ ReadFn Bytes :=
  if s.read.length = n then .inr ⟨.readable s.read, s.recvBuffers, s.readCompleteBuffers⟩
  else
    match s.recvBuffers with
    | b :: rest =>
      match h : b.getBytesUptoSize (n - s.read.length) with
      | some (slice, b) =>
        .inl { s with
          recvBuffers := b :: rest
          read := s.read ++ slice
          copied := true
          read_le := length_append_le h }
      | none =>
        .inl { s with
          recvBuffers := rest
          fin := b.fin
          readCompleteBuffers := s.readCompleteBuffers ++ [b.setStream] }
    | [] =>
      .inr ⟨.ofPair (if got s then some s.read else none, s.fin), [], s.readCompleteBuffers⟩

/-- The segments left in the queue, its buffers, and the bytes left to fill. -/
def measure (s : ReadLoop n) : Nat :=
  (s.recvBuffers.map fun b => b.segmentsLeft + 1).sum + (n - s.read.length)

theorem body_decreases {got : ReadLoop n → Bool} {s s' : ReadLoop n}
    (h : body got s = .inl s') : s'.measure < s.measure := by
  have hle := s.read_le
  unfold body at h
  split at h
  · cases h
  next hn =>
    split at h
    next b rest hq =>
      split at h
      · next slice b' hg =>
        obtain rfl := Sum.inl.inj h
        simp only [measure, hq, List.map_cons, List.sum_cons, List.length_append]
        -- a segment is used up, or the destination is filled
        rcases StreamRecvBuffer.getBytesUptoSize_progress hg with hp | ⟨hp, hs⟩ <;> omega
      · obtain rfl := Sum.inl.inj h
        simp only [measure, hq, List.map_cons, List.sum_cons]
        omega
    · cases h

/-- `read > 0`. -/
def gotBytes (s : ReadLoop n) : Bool := decide (0 < s.read.length)

end ReadLoop

/-- The loop of `poll_read` and `poll_read_buf`. -/
def readLoop (n : Nat) (got : ReadLoop n → Bool) : Loop (ReadLoop n) (ReadFn Bytes) where
  body := ReadLoop.body got
  measure := ReadLoop.measure
  decreases := ReadLoop.body_decreases

/-! ## The polls -/

variable {R ω : Type} [WillWake ω]

/-- A poll's answer and the buffers that are dropped when it returns. -/
structure ReadPoll (α : Type) where
  poll : Poll (Except ReadError α)
  readCompleteBuffers : List StreamRecvBuffer

/-- `unwrap_or` on the value read. -/
def ReadPoll.getD {α : Type} (r : ReadPoll (Option α)) (a : α) : ReadPoll α :=
  ⟨r.poll.map fun res => res.map fun read => read.getD a, r.readCompleteBuffers⟩

namespace Stream

/-- The answer of a read after the receive side is done. -/
def readShutdownComplete {α : Type} (x : StreamInner R ω) : Except ReadError (Option α) :=
  match x.connError with
  | some connError => .error (.connectionLost connError)
  | none =>
    if x.cancelledOnLoss then .error .cancelledOnLoss
    else
      match x.recvErrorCode with
      | some errorCode => .error (.reset errorCode)
      | none => .ok none

def pollReadGeneric {α : Type} (x : StreamInner R ω) (cx : ω)
    (readFn : List StreamRecvBuffer → ReadFn α) : StreamRan R ω (ReadPoll (Option α)) :=
  match x.recvState with
  | .closed => { state := x, result := ⟨.ready (.error .closed), []⟩ }
  | .start =>
    { state := { x with startWaiters := registerWaker x.startWaiters cx }
      result := ⟨.pending, []⟩ }
  | .startComplete =>
    let r := readFn x.recvBuffers
    let x := { x with recvBuffers := r.recvBuffers }
    match r.status with
    | .readable read | .blocked (some read) =>
      { state := x, result := ⟨.ready (.ok (some read)), r.readCompleteBuffers⟩ }
    | .finished read =>
      { state := { x with recvState := .shutdown }
        result := ⟨.ready (.ok read), r.readCompleteBuffers⟩ }
    | .blocked none =>
      { state := { x with readWaiters := registerWaker x.readWaiters cx }
        result := ⟨.pending, r.readCompleteBuffers⟩ }
  | .shutdown => { state := x, result := ⟨.ready (.ok none), []⟩ }
  | .shutdownComplete => { state := x, result := ⟨.ready (readShutdownComplete x), []⟩ }

/-- A read into a buffer of `len` bytes answers with the bytes it has put there. -/
def pollRead (x : StreamInner R ω) (cx : ω) (len : Nat) : StreamRan R ω (ReadPoll Bytes) :=
  (pollReadGeneric x cx fun recvBuffers =>
    (readLoop len ReadLoop.gotBytes).run (.start len recvBuffers)).lift id fun r => r.getD []

/-- A read into a `ReadBuf` answers with the bytes it has put there. -/
def pollReadBuf (x : StreamInner R ω) (cx : ω) (remaining : Nat) :
    StreamRan R ω (ReadPoll Bytes) :=
  if remaining = 0 then { state := x, result := ⟨.ready (.ok []), []⟩ }
  else
    (pollReadGeneric x cx fun recvBuffers =>
      (readLoop remaining ReadLoop.copied).run (.start remaining recvBuffers)).lift id
        fun r => r.getD []

/-- `poll_read_chunk`'s read function. -/
def popChunk : List StreamRecvBuffer → ReadFn StreamRecvBuffer
  | b :: rest => ⟨.ofPair (some b.setStream, b.fin), rest, []⟩
  | [] => ⟨.ofPair (none, false), [], []⟩

def pollReadChunk (x : StreamInner R ω) (cx : ω) :
    StreamRan R ω (ReadPoll (Option StreamRecvBuffer)) :=
  pollReadGeneric x cx popChunk

/-! ## Aborting -/

def pollAbortRead (x : StreamInner R ω) (cx : ω) (errorCode : UInt64) (native : NativeResult) :
    StreamRan R ω (Poll (Except ReadError Unit)) :=
  match x.recvState with
  | .start =>
    { state := { x with startWaiters := registerWaker x.startWaiters cx }, result := .pending }
  | .startComplete =>
    match native with
    | .ok () =>
      { state := { x with recvState := .shutdownComplete, readWaiters := [] }
        result := .ready (.ok ())
        woken := x.readWaiters
        calls := [.shutdown .ABORT_RECEIVE errorCode native] }
    | .error e =>
      { state := x
        result := .ready (.error (.otherError e))
        calls := [.shutdown .ABORT_RECEIVE errorCode native] }
  | .shutdownComplete =>
    match x.connError with
    | some connError => { state := x, result := .ready (.error (.connectionLost connError)) }
    | none =>
      match x.recvErrorCode with
      | some errorCode => { state := x, result := .ready (.error (.reset errorCode)) }
      | none => { state := x, result := .ready (.ok ()) }
  | _ => { state := x, result := .ready (.error .closed) }

/-- The read waiters are not drained here. -/
def abortRead (x : StreamInner R ω) (errorCode : UInt64) (native : NativeResult) :
    StreamRan R ω (Except ReadError Unit) :=
  match x.recvState with
  | .startComplete =>
    match native with
    | .ok () =>
      { state := { x with recvState := .shutdownComplete }
        result := .ok ()
        calls := [.shutdown .ABORT_RECEIVE errorCode native] }
    | .error e =>
      { state := x
        result := .error (.otherError e)
        calls := [.shutdown .ABORT_RECEIVE errorCode native] }
  | _ => { state := x, result := .error .closed }

/-! ## Completing what was read -/

variable [RangeSet R]

def registerReadComplete (x : StreamInner R ω) (bufferRange : Nat × Nat) (bufferOffset : Nat)
    (bufferIsEmpty bufferFin : Bool) : StreamInner R ω × Option Nat :=
  let x :=
    if bufferRange.1 < bufferRange.2 then
      { x with readCompleteMap := RangeSet.insert x.readCompleteMap bufferRange.1 bufferRange.2 }
    else x
  match RangeSet.first x.readCompleteMap with
  | some (start, stop) =>
    if start = 0 ∧ x.readCompleteCursor < stop then
      ({ x with readCompleteCursor := stop }, some (stop - x.readCompleteCursor))
    else if start = 0 ∧ x.readCompleteCursor = stop ∧ bufferOffset = stop ∧ bufferIsEmpty ∧
        bufferFin then
      (x, some 0)
    else (x, none)
  | none => if bufferIsEmpty ∧ bufferFin then (x, some 0) else (x, none)

/-- `register_read_complete` as the two callers call it; `w` is the width of a `usize`. -/
def registerBuffer (w : Nat) (x : StreamInner R ω) (buffer : StreamRecvBuffer) :
    StreamInner R ω × Option Nat :=
  registerReadComplete x (buffer.range w) buffer.offset buffer.isEmpty buffer.fin

/-- `StreamInstance::read_complete`. -/
def readComplete (w : Nat) (x : StreamInner R ω) (buffer : StreamRecvBuffer) :
    StreamRan R ω Unit :=
  let (x, completeLen) := registerBuffer w x buffer
  match completeLen with
  | some len => { state := x, result := (), calls := [.registered len, .receiveComplete len] }
  | none => { state := x, result := () }

/-- `StreamRecvBuffer::drop`: only a buffer that was delivered completes itself. -/
def dropRecvBuffer (w : Nat) (x : StreamInner R ω) (buffer : StreamRecvBuffer) :
    StreamRan R ω Unit :=
  if buffer.stream then readComplete w x buffer else { state := x, result := () }

end Stream

end MsquicAsync
