import MsquicAsync.Stream.Read
import MsquicAsync.Stream.Write

/-!
# MsQuic's events on a stream

One handler for each event. Every handler but the receive handler answers `Ok`;
a Receive is answered `Pending`: MsQuic keeps the memory until it is completed.
-/

namespace MsquicAsync

open Ranges

structure ReceiveFlags where
  zeroRtt : Bool := false
  fin : Bool := false
  deriving DecidableEq, Repr

/-- `msquic::StreamEvent`. -/
inductive MsquicStreamEvent where
  | startComplete (status : Status) (id : UInt64) (peerAccepted : Bool)
  | receive (absoluteOffset totalBufferLength : UInt64) (buffers : List QuicBuffer)
      (flags : ReceiveFlags)
  | sendComplete (canceled : Bool) (clientContext : Nat)
  | peerSendShutdown
  | peerSendAborted (errorCode : UInt64)
  | peerReceiveAborted (errorCode : UInt64)
  | sendShutdownComplete (graceful : Bool)
  | shutdownComplete (connectionShutdown appCloseInProgress connectionShutdownByApp
      connectionClosedRemotely : Bool) (connectionErrorCode : UInt64)
      (connectionCloseStatus : Status)
  | idealSendBufferSize (byteCount : UInt64)
  | peerAccepted
  | cancelOnLoss (errorCode : UInt64)
  | other

variable {R ω : Type}

namespace Stream

/-- `bidirectional` only: the receive side of a local stream starts with it. -/
def startedRecvState (x : StreamInner R ω) : StreamRecvState :=
  if x.streamType = .bidirectional then .startComplete else x.recvState

def handleEventStartComplete [StatusApi] (x : StreamInner R ω) (status : Status) (id : UInt64)
    (peerAccepted : Bool) : StreamRan R ω NativeResult :=
  let isOk := StatusApi.isOk status
  let x := { x with id := if isOk then some id else x.id, startStatus := some status }
  let x :=
    if isOk ∧ peerAccepted then
      { x with
        state := .startComplete
        recvState := startedRecvState x
        sendState := .startComplete }
    else x
  if status = StatusApi.ofStatusCode .streamLimitReached ∨ peerAccepted then
    { state := { x with startWaiters := [] }, result := .ok (), woken := x.startWaiters }
  else { state := x, result := .ok () }

/-- `w` is the width of a `usize`. -/
def handleEventReceive [StatusApi] (w : Nat) (x : StreamInner R ω)
    (absoluteOffset totalBufferLength : UInt64) (buffers : List QuicBuffer) (flags : ReceiveFlags) :
    StreamRan R ω NativeResult :=
  let recvBuffer := StreamRecvBuffer.new (absoluteOffset.toNat % 2 ^ w) buffers flags.fin
  { state :=
      { x with
        recvLen := (x.recvLen + totalBufferLength.toNat) % 2 ^ w
        recvBuffers := x.recvBuffers ++ [recvBuffer]
        readWaiters := [] }
    result := .error (StatusApi.ofStatusCode .pending)
    woken := x.readWaiters }

/-- `writeBuf` is the box at the event's client context. -/
def handleEventSendComplete (x : StreamInner R ω) (writeBuf : WriteBuffer) :
    StreamRan R ω NativeResult :=
  { state := { x with writePool := writeBuf.reset :: x.writePool }, result := .ok () }

/-- The receive side is done, with the peer's error code if it has sent one. -/
def recvDone (x : StreamInner R ω) (recvErrorCode : Option UInt64) : StreamRan R ω NativeResult :=
  { state :=
      { x with recvState := .shutdownComplete, recvErrorCode := recvErrorCode, readWaiters := [] }
    result := .ok ()
    woken := x.readWaiters }

def handleEventPeerSendShutdown (x : StreamInner R ω) : StreamRan R ω NativeResult :=
  recvDone x x.recvErrorCode

def handleEventPeerSendAborted (x : StreamInner R ω) (errorCode : UInt64) :
    StreamRan R ω NativeResult :=
  recvDone x (some errorCode)

/-- The send side is done, with the peer's error code if it has sent one. -/
def sendDone (x : StreamInner R ω) (sendErrorCode : Option UInt64) : StreamRan R ω NativeResult :=
  { state :=
      { x with
        sendState := .shutdownComplete
        sendErrorCode := sendErrorCode
        writeShutdownWaiters := [] }
    result := .ok ()
    woken := x.writeShutdownWaiters }

def handleEventPeerReceiveAborted (x : StreamInner R ω) (errorCode : UInt64) :
    StreamRan R ω NativeResult :=
  sendDone x (some errorCode)

/-- The flag is not looked at. -/
def handleEventSendShutdownComplete (x : StreamInner R ω) (_graceful : Bool) :
    StreamRan R ω NativeResult :=
  sendDone x x.sendErrorCode

/-! ## ShutdownComplete -/

/-- Register undelivered buffers one after the other; the calls this makes. -/
def discardBuffers [RangeSet R] (w : Nat) (appCloseInProgress : Bool) :
    List StreamRecvBuffer → StreamInner R ω → StreamInner R ω × List StreamCall
  | [], x => (x, [])
  | buffer :: rest, x =>
    let (x, completeLen) := registerBuffer w x buffer
    let (x', calls) := discardBuffers w appCloseInProgress rest x
    match completeLen with
    | none => (x', calls)
    | some len =>
      -- once the application is tearing down MsQuic must not be called
      if appCloseInProgress then (x', .registered len :: calls)
      else (x', .registered len :: .receiveComplete len :: calls)

def shutdownConnError (connectionShutdown connectionShutdownByApp connectionClosedRemotely : Bool)
    (connectionErrorCode : UInt64) (connectionCloseStatus : Status)
    (connError : Option ConnectionError) : Option ConnectionError :=
  if connectionShutdown then
    match connectionShutdownByApp, connectionClosedRemotely with
    | true, true => some (.shutdownByPeer connectionErrorCode)
    | true, false => some .shutdownByLocal
    | false, _ => some (.shutdownByTransport connectionCloseStatus connectionErrorCode)
  else connError

/-- The write shutdown waiters are not among the lists drained here. -/
def handleEventShutdownComplete [RangeSet R] (w : Nat) (x : StreamInner R ω)
    (connectionShutdown appCloseInProgress connectionShutdownByApp connectionClosedRemotely : Bool)
    (connectionErrorCode : UInt64) (connectionCloseStatus : Status) : StreamRan R ω NativeResult :=
  -- a second ShutdownComplete: the accounting must run once
  if x.state = .shutdownComplete then { state := x, result := .ok () }
  else
    let (x, calls) :=
      discardBuffers w appCloseInProgress x.recvBuffers { x with recvBuffers := [] }
    { state :=
        { x with
          state := .shutdownComplete
          recvState := .shutdownComplete
          sendState := .shutdownComplete
          connError := shutdownConnError connectionShutdown connectionShutdownByApp
            connectionClosedRemotely connectionErrorCode connectionCloseStatus x.connError
          startWaiters := []
          readWaiters := [] }
      result := .ok ()
      woken := x.startWaiters ++ x.readWaiters
      calls := calls }

def handleEventIdealSendBufferSize (x : StreamInner R ω) (_byteCount : UInt64) :
    StreamRan R ω NativeResult :=
  { state := x, result := .ok () }

def handleEventCancelOnLoss (x : StreamInner R ω) (_errorCode : UInt64) :
    StreamRan R ω NativeResult :=
  { state := { x with cancelledOnLoss := true }, result := .ok () }

def handleEventPeerAccepted (x : StreamInner R ω) : StreamRan R ω NativeResult :=
  { state :=
      { x with
        state := .startComplete
        recvState := startedRecvState x
        sendState := .startComplete
        startWaiters := [] }
    result := .ok ()
    woken := x.startWaiters }

end Stream

end MsquicAsync
