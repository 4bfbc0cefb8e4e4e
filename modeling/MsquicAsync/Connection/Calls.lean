import MsquicAsync.Connection.State

/-!
# The application's calls on a connection

Each poll takes the lock, looks at the state, and either answers or registers
its waker and stays pending. `whenConnected` is the gate five of them share.
`native` is what the native call of an entry point returns, if it makes one, and
`fresh` the address of the box that a send allocates when its pool is empty.
-/

namespace MsquicAsync

variable {ω : Type} [WillWake ω]

namespace Connection

/-- Register `cx` in `start_waiters` and stay pending. -/
def pendStart {α : Type} (x : ConnectionInnerExclusive ω) (cx : ω) :
    ConnectionRan ω (Outcome (Poll α)) :=
  { state := { x with startWaiters := registerWaker x.startWaiters cx }
    result := .returned .pending }

/-- The connection is lost: answer with the recorded error, which must be there. -/
def lost {ε α : Type} (x : ConnectionInnerExclusive ω) (wrap : ConnectionError → ε) :
    ConnectionRan ω (Outcome (Poll (Except ε α))) :=
  { state := x, result := (expect x.error "error").map fun e => .ready (.error (wrap e)) }

/-- The gate of a poll that needs a connected connection. -/
def whenConnected {ε α : Type} (x : ConnectionInnerExclusive ω) (cx : ω) (notStarted : ε)
    (wrap : ConnectionError → ε) (body : ConnectionRan ω (Outcome (Poll (Except ε α)))) :
    ConnectionRan ω (Outcome (Poll (Except ε α))) :=
  match x.state with
  | .opened => { state := x, result := .returned (.ready (.error notStarted)) }
  | .connecting => pendStart x cx
  | .connected => body
  | .shutdown | .shutdownComplete => lost x wrap

def pollStart (x : ConnectionInnerExclusive ω) (cx : ω) (native : NativeResult) :
    ConnectionRan ω (Outcome (Poll (Except ConnectionStartError Unit))) :=
  match x.state with
  | .opened =>
    match native with
    | .error e =>
      { state := x, result := .returned (.ready (.error (.otherError e))), calls := [.start native] }
    | .ok () => { pendStart { x with state := .connecting } cx with calls := [.start native] }
  | .connecting => pendStart x cx
  | .connected => { state := x, result := .returned (.ready (.ok ())) }
  | .shutdown | .shutdownComplete => lost x .connectionLost

def pollAcceptInboundStream (x : ConnectionInnerExclusive ω) (cx : ω) :
    ConnectionRan ω (Outcome (Poll (Except StreamStartError Nat))) :=
  whenConnected x cx .connectionNotStarted .connectionLost <|
    match x.inboundStreams with
    | stream :: rest =>
      { state := { x with inboundStreams := rest }, result := .returned (.ready (.ok stream)) }
    | [] =>
      { state := { x with inboundStreamWaiters := registerWaker x.inboundStreamWaiters cx }
        result := .returned .pending }

def pollAcceptInboundUniStream (x : ConnectionInnerExclusive ω) (cx : ω) :
    ConnectionRan ω (Outcome (Poll (Except StreamStartError Nat))) :=
  whenConnected x cx .connectionNotStarted .connectionLost <|
    match x.inboundUniStreams with
    | stream :: rest =>
      { state := { x with inboundUniStreams := rest }, result := .returned (.ready (.ok stream)) }
    | [] =>
      { state := { x with inboundUniStreamWaiters := registerWaker x.inboundUniStreamWaiters cx }
        result := .returned .pending }

def pollReceiveDatagram (x : ConnectionInnerExclusive ω) (cx : ω) :
    ConnectionRan ω (Outcome (Poll (Except DgramReceiveError Bytes))) :=
  whenConnected x cx .connectionNotStarted .connectionLost <|
    match x.recvBuffers with
    | buf :: rest =>
      { state := { x with recvBuffers := rest }, result := .returned (.ready (.ok buf)) }
    | [] =>
      { state := { x with recvWaiters := registerWaker x.recvWaiters cx }
        result := .returned .pending }

/-- `ConnectionInnerExclusive::send_datagram`. -/
def sendDatagramExclusive (x : ConnectionInnerExclusive ω) (buf : Bytes) (fresh : Nat)
    (native : NativeResult) : ConnectionRan ω (Except DgramSendError Unit) :=
  let (writeBuf, pool) := WriteBuffer.popPool x.writePool fresh
  let (writeBuf, _) := writeBuf.putZerocopy buf
  let (writeBuf, buffers) := writeBuf.getBuffers
  match native with
  | .ok () =>
    { state := { x with writePool := pool }
      result := .ok ()
      calls := [.datagramSend buffers writeBuf native] }
  | .error e =>
    -- MsQuic never took the box
    { state := { x with writePool := writeBuf.reset :: pool }
      result := .error (.otherError e)
      calls := [.datagramSend buffers writeBuf native] }

/-- The limits a datagram is checked against, then the send. -/
def checkedSendDatagram (x : ConnectionInnerExclusive ω) (buf : Bytes) (fresh : Nat)
    (native : NativeResult) : ConnectionRan ω (Except DgramSendError Unit) :=
  if !x.dgramSendEnabled then { state := x, result := .error .denied }
  else if buf.length > x.dgramMaxSendLength.toNat then { state := x, result := .error .tooBig }
  else sendDatagramExclusive x buf fresh native

def pollSendDatagram (x : ConnectionInnerExclusive ω) (cx : ω) (buf : Bytes) (fresh : Nat)
    (native : NativeResult) : ConnectionRan ω (Outcome (Poll (Except DgramSendError Unit))) :=
  whenConnected x cx .connectionNotStarted .connectionLost <|
    (checkedSendDatagram x buf fresh native).lift id fun r => .returned (.ready r)

def sendDatagram (x : ConnectionInnerExclusive ω) (buf : Bytes) (fresh : Nat)
    (native : NativeResult) : ConnectionRan ω (Outcome (Except DgramSendError Unit)) :=
  match x.state with
  | .opened | .connecting => { state := x, result := .returned (.error .connectionNotStarted) }
  | .connected => (checkedSendDatagram x buf fresh native).lift id .returned
  | .shutdown | .shutdownComplete =>
    { state := x, result := (expect x.error "error").map fun e => .error (.connectionLost e) }

def pollShutdown (x : ConnectionInnerExclusive ω) (cx : ω) (errorCode : UInt64) :
    ConnectionRan ω (Outcome (Poll (Except ShutdownError Unit))) :=
  let pend (x : ConnectionInnerExclusive ω) : ConnectionRan ω (Outcome (Poll _)) :=
    { state := { x with shutdownWaiters := registerWaker x.shutdownWaiters cx }
      result := .returned .pending }
  match x.state with
  | .opened => { state := x, result := .returned (.ready (.error .connectionNotStarted)) }
  | .connecting => pendStart x cx
  | .connected =>
    { pend { x with state := .shutdown, error := some .shutdownByLocal } with
      calls := [.shutdown errorCode] }
  | .shutdown => pend x
  | .shutdownComplete =>
    if x.error = some .shutdownByLocal then { state := x, result := .returned (.ready (.ok ())) }
    else lost x .connectionLost

/-- `Connection::shutdown`. -/
def shutdown (x : ConnectionInnerExclusive ω) (errorCode : UInt64) :
    ConnectionRan ω (Except ShutdownError Unit) :=
  match x.state with
  | .opened | .connecting => { state := x, result := .error .connectionNotStarted }
  | .connected =>
    { state := { x with state := .shutdown, error := some .shutdownByLocal }
      result := .ok ()
      calls := [.shutdown errorCode] }
  | _ => { state := x, result := .ok () }

def pollEvent (x : ConnectionInnerExclusive ω) (cx : ω) :
    ConnectionRan ω (Outcome (Poll (Except EventError ConnectionEvent))) :=
  match x.state with
  | .opened => { state := x, result := .returned (.ready (.error .connectionNotStarted)) }
  | .connecting => pendStart x cx
  | .connected | .shutdown =>
    match x.events with
    | [] =>
      { state := { x with eventWaiters := registerWaker x.eventWaiters cx }
        result := .returned .pending }
    | event :: rest =>
      { state := { x with events := rest }, result := .returned (.ready (.ok event)) }
  | .shutdownComplete => lost x .connectionLost

/-- The connection's part of `OpenOutboundStream::poll`: `Ready(Ok(()))` is where the poll
goes on to open and start its stream. -/
def pollOpenOutboundStream (x : ConnectionInnerExclusive ω) (cx : ω) :
    ConnectionRan ω (Outcome (Poll (Except StreamStartError Unit))) :=
  whenConnected x cx .connectionNotStarted .connectionLost
    { state := x, result := .returned (.ready (.ok ())) }

/-- `box` is the address of the secrets buffer that the call allocates if none is there. -/
def setSslkeylogFile (x : ConnectionInnerExclusive ω) (file box : Nat) (native : NativeResult) :
    ConnectionRan ω (Except ConnectionError Unit) :=
  if x.sslkeylogFile.isSome then { state := x, result := .error .sslKeyLogFileAlreadySet }
  else if x.tlsSecrets.isNone then
    let x := { x with tlsSecrets := some box }
    match native with
    | .error e => { state := x, result := .error (.otherError e), calls := [.setTlsSecrets box native] }
    | .ok () =>
      { state := { x with sslkeylogFile := some file }
        result := .ok ()
        calls := [.setTlsSecrets box native] }
  else { state := { x with sslkeylogFile := some file }, result := .ok () }

end Connection

end MsquicAsync
