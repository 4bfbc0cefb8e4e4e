import MsquicAsync.Lib.Ranges
import MsquicAsync.Buffer
import MsquicAsync.Connection.State

/-!
# The state of a stream

`StreamInner` is what the stream's mutex guards, with the shared part beside
it. The set of completed ranges is a parameter `R`: the crate takes it from a
library, and relies on it only through `RangeSet`.
-/

namespace MsquicAsync

open Ranges

inductive StreamState where
  | opened
  | start
  | startComplete
  | shutdownComplete
  deriving DecidableEq, Repr

inductive StreamRecvState where
  | closed
  | start
  | startComplete
  | shutdown
  | shutdownComplete
  deriving DecidableEq, Repr

inductive StreamSendState where
  | closed
  | start
  | startComplete
  | shutdown
  | shutdownComplete
  deriving DecidableEq, Repr

inductive ReadError where
  | closed
  | reset (errorCode : UInt64)
  | cancelledOnLoss
  | connectionLost (e : ConnectionError)
  | otherError (status : Status)
  deriving DecidableEq, Repr

inductive WriteError where
  | closed
  | finished
  | stopped (errorCode : UInt64)
  | cancelledOnLoss
  | connectionLost (e : ConnectionError)
  | otherError (status : Status)
  deriving DecidableEq, Repr

structure StreamInnerExclusive (R ω : Type) where
  state : StreamState
  startStatus : Option Status
  recvState : StreamRecvState
  recvBuffers : List StreamRecvBuffer
  recvLen : Nat
  readCompleteMap : R
  readCompleteCursor : Nat
  sendState : StreamSendState
  writePool : List WriteBuffer
  recvErrorCode : Option UInt64
  sendErrorCode : Option UInt64
  /-- MsQuic tore the stream down because data sent with `CANCEL_ON_LOSS` was lost. -/
  cancelledOnLoss : Bool
  connError : Option ConnectionError
  startWaiters : List ω
  readWaiters : List ω
  writeShutdownWaiters : List ω

structure StreamInnerShared where
  streamType : StreamType
  localOpen : Bool
  id : Option UInt64

structure StreamInner (R ω : Type) extends StreamInnerExclusive R ω, StreamInnerShared

/-- The native calls a stream makes. -/
inductive StreamCall where
  | start (failedOnBlock : Bool) (result : NativeResult)
  /-- A send hands over the box `context`; MsQuic reads `buffers`. -/
  | send (buffers : List QuicBuffer) (flags : SendFlags) (context : WriteBuffer)
      (result : NativeResult)
  | shutdown (flags : StreamShutdownFlags) (errorCode : UInt64) (result : NativeResult)
  /-- Not a native call: `register_read_complete` returned this length. -/
  | registered (len : Nat)
  | receiveComplete (len : Nat)
  deriving DecidableEq

abbrev StreamRan (R ω ρ : Type) := Ran (StreamInner R ω) ω StreamCall ρ

namespace StreamInner

variable {R ω : Type} [RangeSet R]

/-- `StreamInner::new`. -/
def new (streamType : StreamType) (sendState : StreamSendState) (recvState : StreamRecvState)
    (localOpen : Bool) : StreamInner R ω where
  state := .opened
  startStatus := none
  recvState := recvState
  recvBuffers := []
  recvLen := 0
  readCompleteMap := RangeSet.new
  readCompleteCursor := 0
  sendState := sendState
  writePool := []
  recvErrorCode := none
  sendErrorCode := none
  cancelledOnLoss := false
  connError := none
  startWaiters := []
  readWaiters := []
  writeShutdownWaiters := []
  streamType := streamType
  localOpen := localOpen
  id := none

/-- The state `Stream::open` builds. -/
def opened (streamType : StreamType) : StreamInner R ω := new streamType .closed .closed true

/-- The state `Stream::from_raw` builds. -/
def fromRaw (streamType : StreamType) : StreamInner R ω :=
  new streamType (if streamType = .bidirectional then .startComplete else .closed) .startComplete
    false

end StreamInner

end MsquicAsync
