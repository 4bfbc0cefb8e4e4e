import MsquicAsync.Stream.State

/-!
# Starting, writing to and finishing a stream

The three write paths share `pollWriteGeneric` and differ in how they fill the
write buffer. `fresh` is the address of the box that a write allocates when the
pool is empty, `native` what the native call returns, if one is made.
-/

namespace MsquicAsync

variable {R ω : Type} [WillWake ω]

inductive WriteStatus (α : Type) where
  | writable (written : α)
  | finished (written : Option α)
  | blocked (written : Option α)
  deriving DecidableEq

/-- `WriteStatus::from`. -/
def WriteStatus.ofPair {α : Type} : Option α × Bool → WriteStatus α
  | (write, true) => .finished write
  | (write, false) => .blocked write

namespace Stream

def pollStart [StatusApi] (x : StreamInner R ω) (cx : ω) (failedOnBlock : Bool)
    (native : NativeResult) : StreamRan R ω (Outcome (Poll (Except StreamStartError Unit))) :=
  let pend (x : StreamInner R ω) : StreamRan R ω (Outcome (Poll (Except StreamStartError Unit))) :=
    { state := { x with startWaiters := registerWaker x.startWaiters cx }
      result := .returned .pending }
  match x.state with
  | .opened =>
    match native with
    | .error e =>
      { state := x
        result := .returned (.ready (.error (.otherError e)))
        calls := [.start failedOnBlock native] }
    | .ok () =>
      { pend { x with
          state := .start
          recvState := if x.streamType = .bidirectional then .start else x.recvState
          sendState := .start } with
        calls := [.start failedOnBlock native] }
  | .start => pend x
  | _ =>
    match x.startStatus with
    | none => { state := x, result := .returned (.ready (.ok ())) }
    | some startStatus =>
      if StatusApi.isOk startStatus then { state := x, result := .returned (.ready (.ok ())) }
      else
        match StatusApi.tryAsStatusCode startStatus with
        | none => { state := x, result := .panicked "unwrap" }
        | some .streamLimitReached =>
          { state := x, result := .returned (.ready (.error .limitReached)) }
        | some .aborted | some .invalidState =>
          { state := x
            result := (expect x.connError "conn_error").map fun e =>
              .ready (.error (.connectionLost e)) }
        | some _ => { state := x, result := .returned (.ready (.error (.otherError startStatus))) }

/-! ## Writes -/

/-- The answer of a write or a finish after the send side is done; `done` is the answer if
nothing went wrong. -/
def writeShutdownComplete {α : Type} (x : StreamInner R ω) (done : Except WriteError α) :
    Except WriteError α :=
  match x.connError with
  | some connError => .error (.connectionLost connError)
  | none =>
    if x.cancelledOnLoss then .error .cancelledOnLoss
    else
      match x.sendErrorCode with
      | some errorCode => .error (.stopped errorCode)
      | none => done

/-- The part of `poll_write_generic` after the send state is checked. -/
def sendWrite {α : Type} (x : StreamInner R ω) (extraFlags : SendFlags)
    (writeFn : WriteBuffer → WriteBuffer × WriteStatus α) (fresh : Nat) (native : NativeResult) :
    StreamRan R ω (Outcome (Poll (Except WriteError (Option α)))) :=
  let (writeBuf, pool) := WriteBuffer.popPool x.writePool fresh
  let x := { x with writePool := pool }
  let (writeBuf, status) := writeFn writeBuf
  let (writeBuf, buffers) := writeBuf.getBuffers
  let send (flags : SendFlags) (val : Option α) (finish : Bool) :
      StreamRan R ω (Outcome (Poll (Except WriteError (Option α)))) :=
    match native with
    | .ok () =>
      { state := if finish then { x with sendState := .shutdown } else x
        result := .returned (.ready (.ok val))
        calls := [.send buffers flags writeBuf native] }
    | .error e =>
      -- MsQuic never took the box
      { state := { x with writePool := writeBuf.reset :: pool }
        result := .returned (.ready (.error (.otherError e)))
        calls := [.send buffers flags writeBuf native] }
  match status with
  | .writable val | .blocked (some val) => send extraFlags (some val) false
  | .blocked none => { state := x, result := .panicked "internal error: entered unreachable code" }
  | .finished val => send (SendFlags.FIN.union extraFlags) val true

def pollWriteGeneric {α : Type} (x : StreamInner R ω) (cx : ω) (extraFlags : SendFlags)
    (writeFn : WriteBuffer → WriteBuffer × WriteStatus α) (fresh : Nat) (native : NativeResult) :
    StreamRan R ω (Outcome (Poll (Except WriteError (Option α)))) :=
  match x.sendState with
  | .closed => { state := x, result := .returned (.ready (.error .closed)) }
  | .start =>
    { state := { x with startWaiters := registerWaker x.startWaiters cx }
      result := .returned .pending }
  | .startComplete => sendWrite x extraFlags writeFn fresh native
  | .shutdown => { state := x, result := .returned (.ready (.error .finished)) }
  | .shutdownComplete =>
    { state := x, result := .returned (.ready (writeShutdownComplete x (.error .finished))) }

/-- The status of a write that has put `written` of `total` bytes into the buffer. -/
def writeStatus (written total : Nat) (fin : Bool) : WriteStatus Nat :=
  if written = total ∧ !fin then .writable written else .ofPair (some written, fin)

/-- `poll_write`'s write function. -/
def putSliceFn (buf : Bytes) (fin : Bool) (writeBuf : WriteBuffer) : WriteBuffer × WriteStatus Nat :=
  let (writeBuf, written) := writeBuf.putSlice buf
  (writeBuf, writeStatus written buf.length fin)

/-- `poll_write_chunk`'s write function. -/
def putChunkFn (chunk : Bytes) (fin : Bool) (writeBuf : WriteBuffer) :
    WriteBuffer × WriteStatus Nat :=
  let (writeBuf, written) := writeBuf.putZerocopy chunk
  (writeBuf, writeStatus written chunk.length fin)

/-- The loop of `poll_write_chunks`: the buffer, the total length and the total written. -/
def putChunks (writeBuf : WriteBuffer) : List Bytes → Nat → Nat → WriteBuffer × Nat × Nat
  | [], totalLen, totalWritten => (writeBuf, totalLen, totalWritten)
  | buf :: rest, totalLen, totalWritten =>
    let (writeBuf, written) := writeBuf.putZerocopy buf
    putChunks writeBuf rest (totalLen + buf.length) (totalWritten + written)

/-- `poll_write_chunks`'s write function. -/
def putChunksFn (chunks : List Bytes) (fin : Bool) (writeBuf : WriteBuffer) :
    WriteBuffer × WriteStatus Nat :=
  let (writeBuf, totalLen, totalWritten) := putChunks writeBuf chunks 0 0
  (writeBuf, writeStatus totalWritten totalLen fin)

/-- `unwrap_or(0)` on the count written. -/
def countWritten (r : Outcome (Poll (Except WriteError (Option Nat)))) :
    Outcome (Poll (Except WriteError Nat)) :=
  r.map fun p => p.map fun res => res.map fun written => written.getD 0

def pollWrite (x : StreamInner R ω) (cx : ω) (buf : Bytes) (fin : Bool) (extraFlags : SendFlags)
    (fresh : Nat) (native : NativeResult) :
    StreamRan R ω (Outcome (Poll (Except WriteError Nat))) :=
  (pollWriteGeneric x cx extraFlags (putSliceFn buf fin) fresh native).lift id countWritten

def pollWriteChunk (x : StreamInner R ω) (cx : ω) (chunk : Bytes) (fin : Bool)
    (extraFlags : SendFlags) (fresh : Nat) (native : NativeResult) :
    StreamRan R ω (Outcome (Poll (Except WriteError Nat))) :=
  (pollWriteGeneric x cx extraFlags (putChunkFn chunk fin) fresh native).lift id countWritten

def pollWriteChunks (x : StreamInner R ω) (cx : ω) (chunks : List Bytes) (fin : Bool)
    (extraFlags : SendFlags) (fresh : Nat) (native : NativeResult) :
    StreamRan R ω (Outcome (Poll (Except WriteError Nat))) :=
  (pollWriteGeneric x cx extraFlags (putChunksFn chunks fin) fresh native).lift id countWritten

/-! ## Finishing and aborting -/

/-- A poll that shuts the send side down with `flags` and waits for it; `done` is its answer
once the send side is down. -/
def shutdownSend (x : StreamInner R ω) (cx : ω) (flags : StreamShutdownFlags)
    (errorCode : UInt64) (native : NativeResult) (done : Except WriteError Unit) :
    StreamRan R ω (Poll (Except WriteError Unit)) :=
  let pend (x : StreamInner R ω) : StreamRan R ω (Poll (Except WriteError Unit)) :=
    { state := { x with writeShutdownWaiters := registerWaker x.writeShutdownWaiters cx }
      result := .pending }
  match x.sendState with
  | .start =>
    { state := { x with startWaiters := registerWaker x.startWaiters cx }, result := .pending }
  | .startComplete =>
    match native with
    | .ok () =>
      { pend { x with sendState := .shutdown } with calls := [.shutdown flags errorCode native] }
    | .error e =>
      { state := x
        result := .ready (.error (.otherError e))
        calls := [.shutdown flags errorCode native] }
  | .shutdown => pend x
  | .shutdownComplete => { state := x, result := .ready done }
  | .closed => { state := x, result := .ready (.error .closed) }

def pollFinishWrite (x : StreamInner R ω) (cx : ω) (native : NativeResult) :
    StreamRan R ω (Poll (Except WriteError Unit)) :=
  shutdownSend x cx .GRACEFUL 0 native (writeShutdownComplete x (.ok ()))

/-- Unlike a finish, an abort does not look at `cancelled_on_loss`. -/
def pollAbortWrite (x : StreamInner R ω) (cx : ω) (errorCode : UInt64) (native : NativeResult) :
    StreamRan R ω (Poll (Except WriteError Unit)) :=
  shutdownSend x cx .ABORT_SEND errorCode native <|
    match x.connError with
    | some connError => .error (.connectionLost connError)
    | none =>
      match x.sendErrorCode with
      | some errorCode => .error (.stopped errorCode)
      | none => .ok ()

def abortWrite (x : StreamInner R ω) (errorCode : UInt64) (native : NativeResult) :
    StreamRan R ω (Except WriteError Unit) :=
  match x.sendState with
  | .startComplete =>
    match native with
    | .ok () =>
      { state := { x with sendState := .shutdown }
        result := .ok ()
        calls := [.shutdown .ABORT_SEND errorCode native] }
    | .error e =>
      { state := x
        result := .error (.otherError e)
        calls := [.shutdown .ABORT_SEND errorCode native] }
  | _ => { state := x, result := .error .closed }

end Stream

end MsquicAsync
