import MsquicAsync.Buffer

/-!
# The state of a connection

`ConnectionInnerExclusive` is what the connection's mutex guards. A queued
stream is named by its native handle, the key-log file by its descriptor and the
boxed TLS secrets by their address: MsQuic writes the secrets through that
address, so their content is an input of the handler that reads it.
-/

namespace MsquicAsync

inductive ConnectionState where
  | opened
  | connecting
  | connected
  | shutdown
  | shutdownComplete
  deriving DecidableEq, Repr

/-- The position in the lifecycle `Open < Connecting < Connected < Shutdown < ShutdownComplete`. -/
def ConnectionState.rank : ConnectionState → Nat
  | opened => 0
  | connecting => 1
  | connected => 2
  | shutdown => 3
  | shutdownComplete => 4

inductive ConnectionError where
  | shutdownByTransport (status : Status) (errorCode : UInt64)
  | shutdownByPeer (errorCode : UInt64)
  | shutdownByLocal
  | connectionClosed
  | sslKeyLogFileAlreadySet
  | otherError (status : Status)
  deriving DecidableEq, Repr

inductive DgramReceiveError where
  | connectionNotStarted
  | connectionLost (e : ConnectionError)
  | otherError (status : Status)
  deriving DecidableEq, Repr

inductive DgramSendError where
  | connectionNotStarted
  | denied
  | tooBig
  | connectionLost (e : ConnectionError)
  | otherError (status : Status)
  deriving DecidableEq, Repr

/-- The error of `Connection::start`. -/
inductive ConnectionStartError where
  | connectionLost (e : ConnectionError)
  | otherError (status : Status)
  deriving DecidableEq, Repr

inductive ShutdownError where
  | connectionNotStarted
  | connectionLost (e : ConnectionError)
  | otherError (status : Status)
  deriving DecidableEq, Repr

inductive EventError where
  | connectionNotStarted
  | connectionLost (e : ConnectionError)
  | otherError (status : Status)
  deriving DecidableEq, Repr

/-- The error of opening or accepting a stream. -/
inductive StreamStartError where
  | connectionNotStarted
  | limitReached
  | connectionLost (e : ConnectionError)
  | otherError (status : Status)
  deriving DecidableEq, Repr

inductive StreamType where
  | bidirectional
  | unidirectional
  deriving DecidableEq, Repr

inductive SocketAddr where
  | v4 (ip : BitVec 32) (port : UInt16)
  | v6 (ip : BitVec 128) (port : UInt16) (flowinfo scopeId : UInt32)
  deriving DecidableEq

/-- `msquic::Addr`, as far as `as_socket` can read it. -/
structure Addr where
  asSocket : Option SocketAddr
  deriving DecidableEq

structure LostPath where
  localAddress : SocketAddr
  remoteAddress : SocketAddr
  deriving DecidableEq

/-- What `poll_event` hands to the application. -/
inductive ConnectionEvent where
  | localAddressesChanged (added removed : List SocketAddr) (lostPaths : List LostPath)
  | notifyObservedAddress (localAddress observedAddress : SocketAddr)
  | notifyRemoteAddressAdded (address : SocketAddr) (sequenceNumber : UInt64)
  | pathValidated (localAddress remoteAddress : SocketAddr)
  | notifyRemoteAddressRemoved (sequenceNumber : UInt64)
  | pathAdded (localAddress peerAddress : SocketAddr) (pathId : UInt32)
  | pathRemoved (localAddress peerAddress : SocketAddr) (pathId : UInt32)
  | pathStatusChanged (localAddress peerAddress : SocketAddr) (pathId : UInt32) (isActive : Bool)
  | datagramStateChanged (sendEnabled : Bool) (maxSendLength : UInt16)
  deriving DecidableEq

/-- `QUIC_TLS_SECRETS`. -/
structure TlsSecrets where
  secretLength : UInt8
  clientRandomIsSet : Bool
  clientEarlyTrafficSecretIsSet : Bool
  clientHandshakeTrafficSecretIsSet : Bool
  serverHandshakeTrafficSecretIsSet : Bool
  clientTrafficSecret0IsSet : Bool
  serverTrafficSecret0IsSet : Bool
  clientRandom : Bytes
  clientEarlyTrafficSecret : Bytes
  clientHandshakeTrafficSecret : Bytes
  serverHandshakeTrafficSecret : Bytes
  clientTrafficSecret0 : Bytes
  serverTrafficSecret0 : Bytes
  deriving DecidableEq, Inhabited

structure ConnectionInnerExclusive (ω : Type) where
  state : ConnectionState
  error : Option ConnectionError := none
  startWaiters : List ω := []
  inboundStreamWaiters : List ω := []
  inboundUniStreamWaiters : List ω := []
  inboundStreams : List Nat := []
  inboundUniStreams : List Nat := []
  recvBuffers : List Bytes := []
  recvWaiters : List ω := []
  writePool : List WriteBuffer := []
  dgramSendEnabled : Bool := false
  dgramMaxSendLength : UInt16 := 0
  shutdownWaiters : List ω := []
  events : List ConnectionEvent := []
  eventWaiters : List ω := []
  sslkeylogFile : Option Nat := none
  tlsSecrets : Option Nat := none

/-- The native and file-system calls a connection makes. -/
inductive ConnectionCall where
  | start (result : NativeResult)
  | shutdown (errorCode : UInt64)
  /-- A datagram send hands over the box `context`; MsQuic reads `buffers`. -/
  | datagramSend (buffers : List QuicBuffer) (context : WriteBuffer) (result : NativeResult)
  | setTlsSecrets (box : Nat) (result : NativeResult)
  | seekEnd (file : Nat)
  | append (file : Nat) (fragment : String)
  deriving DecidableEq

abbrev ConnectionRan (ω ρ : Type) := Ran (ConnectionInnerExclusive ω) ω ConnectionCall ρ

namespace ConnectionInnerExclusive

variable {ω : Type}

/-- `ConnectionInner::new`. -/
def new (state : ConnectionState) (tlsSecrets sslkeylogFile : Option Nat) :
    ConnectionInnerExclusive ω :=
  { state := state, tlsSecrets := tlsSecrets, sslkeylogFile := sslkeylogFile }

end ConnectionInnerExclusive

end MsquicAsync
