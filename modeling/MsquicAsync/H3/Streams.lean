import MsquicAsync.Stream.State

/-!
# The stream adapters for HTTP/3

`RecvStream` and `SendStream` lend their stream to a stored future while a read
or a write is under way: `stream` is empty until the future has answered. What
the underlying stream answers is an input of each method. The buffer that is
being written comes from a library, which is relied on through `Buf`.
-/

namespace MsquicAsync.H3

/-- `bytes::Buf`. -/
class Buf (β : Type) where
  remaining : β → Nat
  chunk : β → Bytes
  /-- `none`: the buffer panics. -/
  advance : β → Nat → Option β

/-- A byte string is its own rest. -/
instance : Buf Bytes where
  remaining := List.length
  chunk b := b
  advance b n := if n ≤ b.length then some (b.drop n) else none

inductive ConnectionErrorIncoming where
  | applicationClose (errorCode : UInt64)
  | timeout
  | internalError (message : String)
  | undefined (e : ConnectionError)
  deriving DecidableEq, Repr

/-- `ε` is the error that `Unknown` boxes. -/
inductive StreamErrorIncoming (ε : Type) where
  | connectionErrorIncoming (connectionError : ConnectionErrorIncoming)
  | streamTerminated (errorCode : UInt64)
  | unknown (e : ε)
  deriving DecidableEq, Repr

/-- What `ReusableBoxFuture` holds: the first future, which nobody may poll, one that has the
stream and is running, or one that has answered. -/
inductive BoxFuture (α : Type) where
  | unreachable
  | running (a : α)
  | answered
  deriving DecidableEq, Repr

/-- The messages of the panics. -/
def unwrapNone : String := "called `Option::unwrap()` on a `None` value"
def unwrapErr : String := "called `Result::unwrap()` on an `Err` value"
def enteredUnreachable : String := "internal error: entered unreachable code"
def resumedAnswered : String := "`async fn` resumed after completion"
def advancedTooFar : String := "cannot advance past `remaining`"

/-- The calls on the underlying stream. -/
inductive StreamUse (σ : Type) where
  | pollReadChunk (stream : σ)
  | abortRead (stream : σ) (errorCode : UInt64)
  | pollWrite (stream : σ) (chunk : Bytes)
  | pollFinishWrite (stream : σ)
  | abortWrite (stream : σ) (errorCode : UInt64)
  | id (stream : σ)
  deriving DecidableEq

abbrev H3Ran (τ σ ρ : Type) := Ran τ Empty (StreamUse σ) (Outcome ρ)

/-! ## Errors -/

section

variable [StatusApi]

def convertConnectionError : ConnectionError → Outcome ConnectionErrorIncoming
  | .shutdownByPeer errorCode => .returned (.applicationClose errorCode)
  | .shutdownByTransport status code =>
    match StatusApi.tryAsStatusCode status with
    | none => .panicked unwrapErr
    | some .connectionTimeout | some .connectionIdle => .returned .timeout
    | some _ => .returned (.undefined (.shutdownByTransport status code))
  | error => .returned (.undefined error)

def convertReadError : ReadError → Outcome (StreamErrorIncoming ReadError)
  | .reset errorCode => .returned (.streamTerminated errorCode)
  | .connectionLost connectionError =>
    (convertConnectionError connectionError).map .connectionErrorIncoming
  | error => .returned (.unknown error)

def convertWriteError : WriteError → Outcome (StreamErrorIncoming WriteError)
  | .stopped errorCode => .returned (.streamTerminated errorCode)
  | .connectionLost connectionError =>
    (convertConnectionError connectionError).map .connectionErrorIncoming
  | error => .returned (.unknown error)

end

/-- `id().expect("id").try_into().expect("invalid stream id")`; `valid` is whether the number
is a stream id of HTTP/3. -/
def streamId (id : Option UInt64) (valid : Bool) : Outcome UInt64 :=
  match id with
  | none => .panicked "id"
  | some id => if valid then .returned id else .panicked "invalid stream id"

/-! ## Receiving -/

structure RecvStream (σ : Type) where
  stream : Option σ
  readChunkFut : BoxFuture σ

namespace RecvStream

variable {σ : Type}

def new (stream : σ) : RecvStream σ where
  stream := some stream
  readChunkFut := .unreachable

/-- Lend the stream to a future that reads, if it is here. -/
def lend (x : RecvStream σ) : RecvStream σ :=
  match x.stream with
  | some stream => { stream := none, readChunkFut := .running stream }
  | none => x

/-- `answer` is what `poll_read_chunk` answers. -/
def pollData [StatusApi] (x : RecvStream σ)
    (answer : Poll (Except ReadError (Option StreamRecvBuffer))) :
    H3Ran (RecvStream σ) σ
      (Poll (Except (StreamErrorIncoming ReadError) (Option StreamRecvBuffer))) :=
  let x := x.lend
  match x.readChunkFut with
  | .unreachable => { state := x, result := .panicked enteredUnreachable }
  | .answered => { state := x, result := .panicked resumedAnswered }
  | .running stream =>
    match answer with
    | .pending => { state := x, result := .returned .pending, calls := [.pollReadChunk stream] }
    | .ready chunk =>
      { state := { stream := some stream, readChunkFut := .answered }
        result :=
          match chunk with
          | .error e => (convertReadError e).map fun e => .ready (.error e)
          -- an empty chunk that carries FIN is the end
          | .ok chunk => .returned (.ready (.ok (chunk.filter fun b => !b.isEmpty || !b.fin)))
        calls := [.pollReadChunk stream] }

/-- What `abort_read` answers is dropped. -/
def stopSending (x : RecvStream σ) (errorCode : UInt64) : H3Ran (RecvStream σ) σ Unit :=
  match x.stream with
  | none => { state := x, result := .panicked unwrapNone }
  | some stream => { state := x, result := .returned (), calls := [.abortRead stream errorCode] }

def recvId (x : RecvStream σ) (id : Option UInt64) (valid : Bool) :
    H3Ran (RecvStream σ) σ UInt64 :=
  match x.stream with
  | none => { state := x, result := .panicked unwrapNone }
  | some stream => { state := x, result := streamId id valid, calls := [.id stream] }

end RecvStream

/-! ## Sending -/

structure SendStream (σ β : Type) where
  stream : Option σ
  writing : Option β
  /-- A running future has the stream and its copy of the chunk. -/
  writeFut : BoxFuture (σ × Bytes)

namespace SendStream

variable {σ β : Type}

def new (stream : σ) : SendStream σ β where
  stream := some stream
  writing := none
  writeFut := .unreachable

/-- Lend the stream to a future that writes `chunk`, if it is here. -/
def lend (x : SendStream σ β) (chunk : Bytes) : SendStream σ β :=
  match x.stream with
  | some stream => { x with stream := none, writeFut := .running (stream, chunk) }
  | none => x

variable [Buf β]

/-- The loop of `poll_ready` on `data`. `answers` are the answers of `poll_write` in this poll;
the one after them is pending. -/
def pollReadyLoop [StatusApi] (x : SendStream σ β) (data : β)
    (answers : List (Except WriteError Nat)) :
    H3Ran (SendStream σ β) σ (Poll (Except (StreamErrorIncoming WriteError) Unit)) :=
  if Buf.remaining data = 0 then
    { state := { x with writing := none }, result := .returned (.ready (.ok ())) }
  else
    let x := { x.lend (Buf.chunk data) with writing := some data }
    match x.writeFut with
    | .unreachable => { state := x, result := .panicked enteredUnreachable }
    | .answered => { state := x, result := .panicked resumedAnswered }
    | .running (stream, chunk) =>
      let x' := { x with stream := some stream, writeFut := .answered }
      match answers with
      | [] => { state := x, result := .returned .pending, calls := [.pollWrite stream chunk] }
      | .error e :: _ =>
        { state := x'
          result := (convertWriteError e).map fun e => .ready (.error e)
          calls := [.pollWrite stream chunk] }
      | .ok cnt :: answers =>
        match Buf.advance data cnt with
        | none =>
          { state := x', result := .panicked advancedTooFar, calls := [.pollWrite stream chunk] }
        | some data =>
          let r := pollReadyLoop x' data answers
          { r with calls := .pollWrite stream chunk :: r.calls }

def pollReady [StatusApi] (x : SendStream σ β) (answers : List (Except WriteError Nat)) :
    H3Ran (SendStream σ β) σ (Poll (Except (StreamErrorIncoming WriteError) Unit)) :=
  match x.writing with
  | some data => x.pollReadyLoop data answers
  | none => { state := x, result := .returned (.ready (.ok ())) }

/-- `answer` is what `poll_finish_write` answers. -/
def pollFinish [StatusApi] (x : SendStream σ β) (answer : Poll (Except WriteError Unit)) :
    H3Ran (SendStream σ β) σ (Poll (Except (StreamErrorIncoming WriteError) Unit)) :=
  match x.stream with
  | none => { state := x, result := .panicked unwrapNone }
  | some stream =>
    { state := x
      result :=
        match answer with
        | .pending => .returned .pending
        | .ready (.ok ()) => .returned (.ready (.ok ()))
        | .ready (.error e) => (convertWriteError e).map fun e => .ready (.error e)
      calls := [.pollFinishWrite stream] }

/-- What `abort_write` answers is dropped. -/
def reset (x : SendStream σ β) (resetCode : UInt64) : H3Ran (SendStream σ β) σ Unit :=
  match x.stream with
  | none => { state := x, result := .panicked unwrapNone }
  | some stream => { state := x, result := .returned (), calls := [.abortWrite stream resetCode] }

def sendData (x : SendStream σ β) (data : β) :
    H3Ran (SendStream σ β) σ (Except (StreamErrorIncoming WriteError) Unit) :=
  if x.writing.isSome then
    { state := x
      result := .returned (.error (.connectionErrorIncoming
        (.internalError "internal error in the http stack"))) }
  else { state := { x with writing := some data }, result := .returned (.ok ()) }

def sendId (x : SendStream σ β) (id : Option UInt64) (valid : Bool) :
    H3Ran (SendStream σ β) σ UInt64 :=
  match x.stream with
  | none => { state := x, result := .panicked unwrapNone }
  | some stream => { state := x, result := streamId id valid, calls := [.id stream] }

/-- The message of `poll_send`'s guard. -/
def pollSendNotReady : String := "poll_send called while send stream is not ready"

/-- `SendStreamUnframed::poll_send` writes another buffer, which it advances; `answer` is what
`poll_write` answers. -/
def pollSend [StatusApi] {δ : Type} [Buf δ] (x : SendStream σ β) (buf : δ)
    (answer : Poll (Except WriteError Nat)) :
    H3Ran (SendStream σ β) σ (Poll (Except (StreamErrorIncoming WriteError) Nat) × δ) :=
  if x.writing.isSome then { state := x, result := .panicked pollSendNotReady }
  else
    match x.stream with
    | none => { state := x, result := .panicked unwrapNone }
    | some stream =>
      { state := x
        result :=
          match answer with
          | .pending => .returned (.pending, buf)
          | .ready (.ok written) =>
            match Buf.advance buf written with
            | none => .panicked advancedTooFar
            | some buf => .returned (.ready (.ok written), buf)
          | .ready (.error e) => (convertWriteError e).map fun e => (.ready (.error e), buf)
        calls := [.pollWrite stream (Buf.chunk buf)] }

end SendStream

/-- A bidirectional stream delegates each method to one of its halves. -/
structure BidiStream (σ β : Type) where
  send : SendStream σ β
  recv : RecvStream σ

end MsquicAsync.H3
