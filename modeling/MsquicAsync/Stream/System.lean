import MsquicAsync.Lib.Runs
import MsquicAsync.Stream.Events

/-!
# Runs of a stream

A stream with the receive buffers its readers hold and the write buffers MsQuic
holds for it, stepped by the application's calls and MsQuic's events. Every step
is one critical section. A buffer that a read has popped is held until a later
`dropRecvBuffer` step, so a drop may come at any time after the read and in any
order, also after ShutdownComplete.
-/

namespace MsquicAsync

open Runs Ranges

/-- A call of the application; `cx` is the waker of the polling task. -/
inductive StreamOp (ω : Type) where
  | pollStart (cx : ω) (failedOnBlock : Bool) (native : NativeResult)
  | pollRead (cx : ω) (len : Nat)
  | pollReadBuf (cx : ω) (remaining : Nat)
  | pollReadChunk (cx : ω)
  | pollWrite (cx : ω) (buf : Bytes) (fin : Bool) (extraFlags : SendFlags) (fresh : Nat)
      (native : NativeResult)
  | pollWriteChunk (cx : ω) (chunk : Bytes) (fin : Bool) (extraFlags : SendFlags) (fresh : Nat)
      (native : NativeResult)
  | pollWriteChunks (cx : ω) (chunks : List Bytes) (fin : Bool) (extraFlags : SendFlags)
      (fresh : Nat) (native : NativeResult)
  | pollFinishWrite (cx : ω) (native : NativeResult)
  | pollAbortWrite (cx : ω) (errorCode : UInt64) (native : NativeResult)
  | abortWrite (errorCode : UInt64) (native : NativeResult)
  | pollAbortRead (cx : ω) (errorCode : UInt64) (native : NativeResult)
  | abortRead (errorCode : UInt64) (native : NativeResult)
  /-- Drop the held buffer at an index. -/
  | dropRecvBuffer (i : Nat)
  | advance (i count : Nat)
  | getBytesUptoSize (i size : Nat)

inductive StreamLabel (ω : Type) where
  | call (op : StreamOp ω)
  | event (ev : MsquicStreamEvent)

inductive StreamRes where
  | start (r : Outcome (Poll (Except StreamStartError Unit)))
  | read (r : Poll (Except ReadError Bytes))
  | readChunk (r : Poll (Except ReadError (Option StreamRecvBuffer)))
  | write (r : Outcome (Poll (Except WriteError Nat)))
  | finishWrite (r : Poll (Except WriteError Unit))
  | pollAbortWrite (r : Poll (Except WriteError Unit))
  | abortWrite (r : Except WriteError Unit)
  | pollAbortRead (r : Poll (Except ReadError Unit))
  | abortRead (r : Except ReadError Unit)
  | bytes (r : Option Bytes)
  | unit
  | panicked (message : String)
  | callback (r : NativeResult)

structure StreamSys (R ω : Type) where
  inner : StreamInner R ω
  /-- The receive buffers that reads have popped and nobody has dropped. -/
  held : List StreamRecvBuffer := []
  /-- The boxes handed to MsQuic and not yet reclaimed. -/
  native : List WriteBuffer := []

/-- The boxes the sends among the calls handed over. -/
def acceptedSends (calls : List StreamCall) : List WriteBuffer :=
  calls.filterMap fun
    | .send _ _ context (.ok ()) => some context
    | _ => none

/-- The chunk a read hands out. -/
def handedChunk : Poll (Except ReadError (Option StreamRecvBuffer)) → List StreamRecvBuffer
  | .ready (.ok (some b)) => [b]
  | _ => []

namespace StreamSys

variable {R ω ρ α : Type}

/-- A call's effect on the whole system. -/
def after (s : StreamSys R ω) (r : StreamRan R ω ρ) (g : ρ → StreamRes) :
    Ran (StreamSys R ω) ω StreamCall StreamRes :=
  r.lift (fun x => { s with inner := x, native := s.native ++ acceptedSends r.calls }) g

/-- The effect of a read: the buffers it popped are held. -/
def afterRead (s : StreamSys R ω) (r : StreamRan R ω (ReadPoll α))
    (chunk : Poll (Except ReadError α) → List StreamRecvBuffer)
    (g : Poll (Except ReadError α) → StreamRes) :
    Ran (StreamSys R ω) ω StreamCall StreamRes :=
  r.lift (fun x => { s with
    inner := x
    held := s.held ++ r.result.readCompleteBuffers ++ chunk r.result.poll }) fun p => g p.poll

variable [RangeSet R] [WillWake ω] [StatusApi]

def call (w : Nat) (s : StreamSys R ω) :
    StreamOp ω → Ran (StreamSys R ω) ω StreamCall StreamRes
  | .pollStart cx failedOnBlock native =>
    s.after (Stream.pollStart s.inner cx failedOnBlock native) .start
  | .pollRead cx len => s.afterRead (Stream.pollRead s.inner cx len) (fun _ => []) .read
  | .pollReadBuf cx remaining =>
    s.afterRead (Stream.pollReadBuf s.inner cx remaining) (fun _ => []) .read
  | .pollReadChunk cx => s.afterRead (Stream.pollReadChunk s.inner cx) handedChunk .readChunk
  | .pollWrite cx buf fin extraFlags fresh native =>
    s.after (Stream.pollWrite s.inner cx buf fin extraFlags fresh native) .write
  | .pollWriteChunk cx chunk fin extraFlags fresh native =>
    s.after (Stream.pollWriteChunk s.inner cx chunk fin extraFlags fresh native) .write
  | .pollWriteChunks cx chunks fin extraFlags fresh native =>
    s.after (Stream.pollWriteChunks s.inner cx chunks fin extraFlags fresh native) .write
  | .pollFinishWrite cx native => s.after (Stream.pollFinishWrite s.inner cx native) .finishWrite
  | .pollAbortWrite cx errorCode native =>
    s.after (Stream.pollAbortWrite s.inner cx errorCode native) .pollAbortWrite
  | .abortWrite errorCode native =>
    s.after (Stream.abortWrite s.inner errorCode native) .abortWrite
  | .pollAbortRead cx errorCode native =>
    s.after (Stream.pollAbortRead s.inner cx errorCode native) .pollAbortRead
  | .abortRead errorCode native => s.after (Stream.abortRead s.inner errorCode native) .abortRead
  | .dropRecvBuffer i =>
    match s.held[i]? with
    | some b =>
      { s with held := s.held.eraseIdx i }.after (Stream.dropRecvBuffer w s.inner b) fun _ => .unit
    | none => { state := s, result := .unit }
  | .advance i count =>
    match s.held[i]? with
    | some b =>
      match b.advance count with
      | .returned b => { state := { s with held := s.held.set i b }, result := .unit }
      | .panicked message => { state := s, result := .panicked message }
    | none => { state := s, result := .unit }
  | .getBytesUptoSize i size =>
    match s.held[i]? with
    | some b =>
      match b.getBytesUptoSize size with
      | some (slice, b) =>
        { state := { s with held := s.held.set i b }, result := .bytes (some slice) }
      | none => { state := s, result := .bytes none }
    | none => { state := s, result := .unit }

/-- `StreamInner::dispatch_event`. -/
def dispatchEvent (w : Nat) (s : StreamSys R ω) :
    MsquicStreamEvent → Ran (StreamSys R ω) ω StreamCall StreamRes
  | .startComplete status id peerAccepted =>
    s.after (Stream.handleEventStartComplete s.inner status id peerAccepted) .callback
  | .receive absoluteOffset totalBufferLength buffers flags =>
    s.after (Stream.handleEventReceive w s.inner absoluteOffset totalBufferLength buffers flags)
      .callback
  | .sendComplete _ clientContext =>
    match WriteBuffer.fromRaw s.native clientContext with
    | some (writeBuf, native) =>
      { s with native := native }.after (Stream.handleEventSendComplete s.inner writeBuf) .callback
    -- a context that MsQuic does not own: it never reports one
    | none => { state := s, result := .callback (.ok ()) }
  | .peerSendShutdown => s.after (Stream.handleEventPeerSendShutdown s.inner) .callback
  | .peerSendAborted errorCode =>
    s.after (Stream.handleEventPeerSendAborted s.inner errorCode) .callback
  | .peerReceiveAborted errorCode =>
    s.after (Stream.handleEventPeerReceiveAborted s.inner errorCode) .callback
  | .sendShutdownComplete graceful =>
    s.after (Stream.handleEventSendShutdownComplete s.inner graceful) .callback
  | .shutdownComplete connectionShutdown appCloseInProgress connectionShutdownByApp
      connectionClosedRemotely connectionErrorCode connectionCloseStatus =>
    s.after (Stream.handleEventShutdownComplete w s.inner connectionShutdown appCloseInProgress
      connectionShutdownByApp connectionClosedRemotely connectionErrorCode connectionCloseStatus)
      .callback
  | .idealSendBufferSize byteCount =>
    s.after (Stream.handleEventIdealSendBufferSize s.inner byteCount) .callback
  | .peerAccepted => s.after (Stream.handleEventPeerAccepted s.inner) .callback
  | .cancelOnLoss errorCode => s.after (Stream.handleEventCancelOnLoss s.inner errorCode) .callback
  | .other => { state := s, result := .callback (.ok ()) }

def step (w : Nat) (s : StreamSys R ω) :
    StreamLabel ω → Ran (StreamSys R ω) ω StreamCall StreamRes
  | .call op => s.call w op
  | .event ev => s.dispatchEvent w ev

/-- What `Stream::open` and `Stream::from_raw` build. -/
inductive Init : StreamSys R ω → Prop where
  | opened (streamType : StreamType) : Init { inner := .opened streamType }
  | fromRaw (streamType : StreamType) : Init { inner := .fromRaw streamType }

end StreamSys

abbrev StreamStep (R ω : Type) :=
  Step (StreamSys R ω) (StreamLabel ω) (Out ω StreamCall StreamRes)

/-- A contract for the environment of a stream. -/
abbrev StreamContract (R ω : Type) :=
  List (StreamStep R ω) → StreamSys R ω → StreamLabel ω → Prop

/-- The system of one stream under a contract for its environment; `w` is the width of a
`usize`. -/
def streamSystem {R ω : Type} [RangeSet R] [WillWake ω] [StatusApi] (w : Nat)
    (ok : StreamContract R ω) :
    System (StreamSys R ω) (StreamLabel ω) (Out ω StreamCall StreamRes) where
  init := StreamSys.Init
  ok := ok
  next s l := ((s.step w l).state, (s.step w l).toOut)

end MsquicAsync
