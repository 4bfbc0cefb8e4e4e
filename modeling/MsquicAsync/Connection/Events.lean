import MsquicAsync.Connection.Calls

/-!
# MsQuic's events on a connection

One handler for each event, and `dispatchEvent`, which picks it. The two
shutdown-initiated handlers are one transition with two reasons
(`shutdownInitiated`), and the handlers that only queue an event for
`poll_event` share `pushEvent`.
-/

namespace MsquicAsync

/-- `msquic::DatagramSendState`. -/
inductive DatagramSendState where
  | unknown
  | sent
  | lostSuspect
  | lostDiscarded
  | acknowledged
  | acknowledgedSpurious
  | canceled
  deriving DecidableEq, Repr

/-- `msquic::ConnectionEvent`. -/
inductive MsquicConnectionEvent where
  /-- `verdict` is what the installed handler answers, or `Ok` without one. -/
  | peerCertificateReceived (verdict : NativeResult)
  /-- `secrets` is what MsQuic has written at the address of a secrets buffer. -/
  | connected (secrets : Nat → TlsSecrets)
  | shutdownInitiatedByTransport (status : Status) (errorCode : UInt64)
  | shutdownInitiatedByPeer (errorCode : UInt64)
  | shutdownComplete (handshakeCompleted peerAcknowledgedShutdown appCloseInProgress : Bool)
  | peerStreamStarted (stream : Nat) (streamType : StreamType)
  | streamsAvailable (bidirectionalCount unidirectionalCount : UInt16)
  | datagramStateChanged (sendEnabled : Bool) (maxSendLength : UInt16)
  | datagramReceived (buffer : QuicBuffer)
  | datagramSendStateChanged (clientContext : Nat) (state : DatagramSendState)
  | localAddressesChanged (added removed : List Addr) (lostPaths : List (Option Addr × Option Addr))
  | notifyObservedAddress (localAddress observedAddress : Addr)
  | notifyRemoteAddressAdded (address : Addr) (sequenceNumber : UInt64)
  | pathValidated (localAddress remoteAddress : Addr)
  | notifyRemoteAddressRemoved (sequenceNumber : UInt64)
  | pathAdded (peerAddress localAddress : Addr) (pathId : UInt32)
  | pathRemoved (peerAddress localAddress : Addr) (pathId : UInt32)
  | pathStatusChanged (peerAddress localAddress : Addr) (pathId : UInt32) (isActive : Bool)
  | other

/-! ## The key log -/

def hexDigit (n : Nat) : Char := "0123456789abcdef".toList.getD n '0'

/-- `hex::encode`. -/
def hexEncode (bytes : Bytes) : String :=
  String.ofList (bytes.flatMap fun b => [hexDigit (b.toNat / 16), hexDigit (b.toNat % 16)])

/-- The appends of one `writeln!`: one for each literal and each argument. -/
def keyLogLine (label clientRandom : String) (secret : Bytes) : List String :=
  [label ++ " ", clientRandom, " ", hexEncode secret, "\n"]

/-- The lines `handle_event_connected` writes, in order. -/
def keyLogLines (s : TlsSecrets) : List (List String) :=
  let clientRandom := if s.clientRandomIsSet then hexEncode s.clientRandom else ""
  -- clamped to `QUIC_TLS_SECRETS_MAX_SECRET_LEN`
  let secretLen := min s.secretLength.toNat 64
  let line (isSet : Bool) (label : String) (secret : Bytes) : List (List String) :=
    if isSet then [keyLogLine label clientRandom (secret.take secretLen)] else []
  line s.clientEarlyTrafficSecretIsSet "CLIENT_EARLY_TRAFFIC_SECRET" s.clientEarlyTrafficSecret ++
  line s.clientHandshakeTrafficSecretIsSet "CLIENT_HANDSHAKE_TRAFFIC_SECRET"
    s.clientHandshakeTrafficSecret ++
  line s.serverHandshakeTrafficSecretIsSet "SERVER_HANDSHAKE_TRAFFIC_SECRET"
    s.serverHandshakeTrafficSecret ++
  line s.clientTrafficSecret0IsSet "CLIENT_TRAFFIC_SECRET_0" s.clientTrafficSecret0 ++
  line s.serverTrafficSecret0IsSet "SERVER_TRAFFIC_SECRET_0" s.serverTrafficSecret0

/-! ## The handlers -/

variable {ω : Type}

namespace Connection

def handleEventConnected (x : ConnectionInnerExclusive ω) (secrets : Nat → TlsSecrets) :
    ConnectionRan ω NativeResult :=
  let (x, calls) :=
    match x.tlsSecrets, x.sslkeylogFile with
    | some box, some file =>
      -- the secrets are put back, the file is not
      ({ x with tlsSecrets := some box, sslkeylogFile := none },
        ConnectionCall.seekEnd file ::
          (keyLogLines (secrets box)).flatten.map (ConnectionCall.append file))
    | _, _ => ({ x with tlsSecrets := none, sslkeylogFile := none }, [])
  { state := { x with state := .connected, startWaiters := [] }
    result := .ok ()
    woken := x.startWaiters
    calls := calls }

def shutdownInitiated (x : ConnectionInnerExclusive ω) (error : ConnectionError) :
    ConnectionRan ω NativeResult :=
  { state :=
      { x with
        state := .shutdown
        error := some error
        startWaiters := []
        inboundStreamWaiters := []
        recvWaiters := [] }
    result := .ok ()
    woken := x.startWaiters ++ x.inboundStreamWaiters ++ x.recvWaiters }

def handleEventShutdownInitiatedByTransport (x : ConnectionInnerExclusive ω) (status : Status)
    (errorCode : UInt64) : ConnectionRan ω NativeResult :=
  shutdownInitiated x (.shutdownByTransport status errorCode)

def handleEventShutdownInitiatedByPeer (x : ConnectionInnerExclusive ω) (errorCode : UInt64) :
    ConnectionRan ω NativeResult :=
  shutdownInitiated x (.shutdownByPeer errorCode)

/-- The inbound uni stream waiters are not among the lists drained here. -/
def handleEventShutdownComplete (x : ConnectionInnerExclusive ω) : ConnectionRan ω NativeResult :=
  { state :=
      { x with
        state := .shutdownComplete
        error := if x.error.isNone then some .shutdownByLocal else x.error
        startWaiters := []
        inboundStreamWaiters := []
        recvWaiters := []
        shutdownWaiters := []
        eventWaiters := [] }
    result := .ok ()
    woken := x.startWaiters ++ x.inboundStreamWaiters ++ x.recvWaiters ++ x.shutdownWaiters ++
      x.eventWaiters }

/-- A peer-initiated unidirectional stream always splits into exactly a read half, so the
error branch behind that check is not reachable. -/
def handleEventPeerStreamStarted (x : ConnectionInnerExclusive ω) (stream : Nat)
    (streamType : StreamType) : ConnectionRan ω NativeResult :=
  match streamType with
  | .unidirectional =>
    { state :=
        { x with
          inboundUniStreams := x.inboundUniStreams ++ [stream]
          inboundUniStreamWaiters := [] }
      result := .ok ()
      woken := x.inboundUniStreamWaiters }
  | .bidirectional =>
    { state :=
        { x with
          inboundStreams := x.inboundStreams ++ [stream]
          inboundStreamWaiters := [] }
      result := .ok ()
      woken := x.inboundStreamWaiters }

/-- Overwrite the first queued `DatagramStateChanged`, or queue one at the back. -/
def coalesceDatagramState (sendEnabled : Bool) (maxSendLength : UInt16) :
    List ConnectionEvent → List ConnectionEvent
  | [] => [.datagramStateChanged sendEnabled maxSendLength]
  | .datagramStateChanged _ _ :: rest => .datagramStateChanged sendEnabled maxSendLength :: rest
  | event :: rest => event :: coalesceDatagramState sendEnabled maxSendLength rest

def handleEventDatagramStateChanged (x : ConnectionInnerExclusive ω) (sendEnabled : Bool)
    (maxSendLength : UInt16) : ConnectionRan ω NativeResult :=
  { state :=
      { x with
        dgramSendEnabled := sendEnabled
        dgramMaxSendLength := maxSendLength
        events := coalesceDatagramState sendEnabled maxSendLength x.events
        eventWaiters := [] }
    result := .ok ()
    woken := x.eventWaiters }

def handleEventDatagramReceived (x : ConnectionInnerExclusive ω) (buffer : QuicBuffer) :
    ConnectionRan ω NativeResult :=
  { state := { x with recvBuffers := x.recvBuffers ++ [buffer.bytes], recvWaiters := [] }
    result := .ok ()
    woken := x.recvWaiters }

/-- `writeBuf` is the box at the event's client context. -/
def handleEventDatagramSendStateChanged (x : ConnectionInnerExclusive ω) (writeBuf : WriteBuffer) :
    DatagramSendState → ConnectionRan ω NativeResult
  | .sent | .canceled =>
    { state := { x with writePool := writeBuf.reset :: x.writePool }, result := .ok () }
  | _ => { state := x, result := .ok () }

/-- Queue an event for `poll_event` and wake its waiters. -/
def pushEvent (x : ConnectionInnerExclusive ω) (event : ConnectionEvent) :
    ConnectionRan ω NativeResult :=
  { state := { x with events := x.events ++ [event], eventWaiters := [] }
    result := .ok ()
    woken := x.eventWaiters }

/-- Queue an event about two addresses, unless one is not a socket address. -/
def pushAddrEvent (x : ConnectionInnerExclusive ω) (a b : Addr)
    (event : SocketAddr → SocketAddr → ConnectionEvent) : ConnectionRan ω NativeResult :=
  match a.asSocket, b.asSocket with
  | some a, some b => pushEvent x (event a b)
  | _, _ => { state := x, result := .ok () }

/-- `local_addresses_changed_event`. -/
def localAddressesChangedEvent (added removed : List Addr)
    (lostPaths : List (Option Addr × Option Addr)) : ConnectionEvent :=
  let lostPath (path : Option Addr × Option Addr) : Option LostPath := do
    let localAddress ← (← path.1).asSocket
    let remoteAddress ← (← path.2).asSocket
    return ⟨localAddress, remoteAddress⟩
  .localAddressesChanged (added.filterMap Addr.asSocket) (removed.filterMap Addr.asSocket)
    (lostPaths.filterMap lostPath)

def handleEventLocalAddressesChanged (x : ConnectionInnerExclusive ω) (added removed : List Addr)
    (lostPaths : List (Option Addr × Option Addr)) : ConnectionRan ω NativeResult :=
  pushEvent x (localAddressesChangedEvent added removed lostPaths)

def handleEventNotifyObservedAddress (x : ConnectionInnerExclusive ω)
    (localAddress observedAddress : Addr) : ConnectionRan ω NativeResult :=
  pushAddrEvent x localAddress observedAddress .notifyObservedAddress

def handleEventNotifyRemoteAddressAdded (x : ConnectionInnerExclusive ω) (address : Addr)
    (sequenceNumber : UInt64) : ConnectionRan ω NativeResult :=
  match address.asSocket with
  | some address => pushEvent x (.notifyRemoteAddressAdded address sequenceNumber)
  | none => { state := x, result := .ok () }

def handleEventPathValidated (x : ConnectionInnerExclusive ω) (localAddress remoteAddress : Addr) :
    ConnectionRan ω NativeResult :=
  pushAddrEvent x localAddress remoteAddress .pathValidated

def handleEventNotifyRemoteAddressRemoved (x : ConnectionInnerExclusive ω)
    (sequenceNumber : UInt64) : ConnectionRan ω NativeResult :=
  pushEvent x (.notifyRemoteAddressRemoved sequenceNumber)

def handleEventPathAdded (x : ConnectionInnerExclusive ω) (localAddress peerAddress : Addr)
    (pathId : UInt32) : ConnectionRan ω NativeResult :=
  pushAddrEvent x localAddress peerAddress fun l p => .pathAdded l p pathId

def handleEventPathRemoved (x : ConnectionInnerExclusive ω) (localAddress peerAddress : Addr)
    (pathId : UInt32) : ConnectionRan ω NativeResult :=
  pushAddrEvent x localAddress peerAddress fun l p => .pathRemoved l p pathId

def handleEventPathStatusChanged (x : ConnectionInnerExclusive ω) (localAddress peerAddress : Addr)
    (pathId : UInt32) (isActive : Bool) : ConnectionRan ω NativeResult :=
  pushAddrEvent x localAddress peerAddress fun l p => .pathStatusChanged l p pathId isActive

end Connection

end MsquicAsync
