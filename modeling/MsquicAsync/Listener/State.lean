import MsquicAsync.Connection.State

/-!
# A listener: its state, calls and events

`ListenerInnerExclusive` is what the listener's mutex guards. A queued connection
is what `Connection::from_raw` is given for it. The two start methods are one
(`startWith`) with two ways to name the address. `poll_stop` calls MsQuic after it
has released the lock, so its locked part also says whether it will.
-/

namespace MsquicAsync

inductive ListenerState where
  | opened
  | startComplete
  | shutdown
  | shutdownComplete
  deriving DecidableEq, Repr

inductive ListenError where
  | notStarted
  | alreadyStarted
  | finished
  | failed
  | unspecifiedLocalAddress
  | sslKeyLogFileAlreadySet
  | otherError (status : Status)
  deriving DecidableEq, Repr

/-- What `Connection::from_raw` is given: the handle, the registered secrets buffer and the
key-log file. -/
structure AcceptedConnection where
  handle : Nat
  tlsSecrets : Option Nat
  sslkeylogFile : Option Nat
  deriving DecidableEq, Repr

structure ListenerInnerExclusive (ω : Type) where
  state : ListenerState := .opened
  newConnections : List AcceptedConnection := []
  newConnectionWaiters : List ω := []
  shutdownCompleteWaiters : List ω := []
  sslkeylogFile : Option Nat := none

/-- The address a listener is started on. -/
inductive ListenAddr where
  | socket (address : SocketAddr)
  /-- `QUIC_ADDRESS_FAMILY_UNSPEC` with a port: both families. -/
  | unspec (port : UInt16)
  deriving DecidableEq

inductive ListenerCall where
  | start (alpn : List Bytes) (localAddress : Option ListenAddr) (result : NativeResult)
  | stop
  | setTlsSecrets (connection box : Nat) (result : NativeResult)
  | setConfiguration (connection : Nat) (result : NativeResult)
  deriving DecidableEq

abbrev ListenerRan (ω ρ : Type) := Ran (ListenerInnerExclusive ω) ω ListenerCall ρ

variable {ω : Type}

namespace Listener

/-! ## The application's calls -/

/-- What `start` and `start_on_port` share. -/
def startWith (x : ListenerInnerExclusive ω) (alpn : List Bytes) (localAddress : Option ListenAddr)
    (native : NativeResult) : ListenerRan ω (Except ListenError Unit) :=
  match x.state with
  | .opened | .shutdownComplete =>
    match native with
    | .error e =>
      { state := x, result := .error (.otherError e), calls := [.start alpn localAddress native] }
    | .ok () =>
      { state := { x with state := .startComplete }
        result := .ok ()
        calls := [.start alpn localAddress native] }
  | .startComplete | .shutdown => { state := x, result := .error .alreadyStarted }

def start (x : ListenerInnerExclusive ω) (alpn : List Bytes) (localAddress : Option SocketAddr)
    (native : NativeResult) : ListenerRan ω (Except ListenError Unit) :=
  startWith x alpn (localAddress.map .socket) native

def startOnPort (x : ListenerInnerExclusive ω) (alpn : List Bytes) (localPort : Option UInt16)
    (native : NativeResult) : ListenerRan ω (Except ListenError Unit) :=
  startWith x alpn (localPort.map .unspec) native

def pollAccept [WillWake ω] (x : ListenerInnerExclusive ω) (cx : ω) :
    ListenerRan ω (Poll (Except ListenError AcceptedConnection)) :=
  match x.newConnections with
  | connection :: rest =>
    { state := { x with newConnections := rest }, result := .ready (.ok connection) }
  | [] =>
    match x.state with
    | .opened => { state := x, result := .ready (.error .notStarted) }
    | .startComplete | .shutdown =>
      { state := { x with newConnectionWaiters := registerWaker x.newConnectionWaiters cx }
        result := .pending }
    | .shutdownComplete => { state := x, result := .ready (.error .finished) }

/-- `poll_stop` under the lock: its answer, and its `call_stop`. -/
def pollStop [WillWake ω] (x : ListenerInnerExclusive ω) (cx : ω) :
    ListenerRan ω (Poll (Except ListenError Unit) × Bool) :=
  let register (x : ListenerInnerExclusive ω) : ListenerInnerExclusive ω :=
    { x with shutdownCompleteWaiters := registerWaker x.shutdownCompleteWaiters cx }
  match x.state with
  | .opened => { state := x, result := (.ready (.error .notStarted), false) }
  | .startComplete => { state := register { x with state := .shutdown }, result := (.pending, true) }
  | .shutdown => { state := register x, result := (.pending, false) }
  | .shutdownComplete => { state := x, result := (.ready (.ok ()), false) }

def setSslkeylogFile (x : ListenerInnerExclusive ω) (file : Nat) :
    ListenerRan ω (Except ListenError Unit) :=
  if x.sslkeylogFile.isSome then { state := x, result := .error .sslKeyLogFileAlreadySet }
  else { state := { x with sslkeylogFile := some file }, result := .ok () }

/-! ## MsQuic's events -/

/-- Configure the connection, then queue it and wake whoever waits for one. -/
def queueConnection (x : ListenerInnerExclusive ω) (connection : AcceptedConnection)
    (setConfiguration : NativeResult) : ListenerRan ω NativeResult :=
  match setConfiguration with
  | .error e =>
    { state := x
      result := .error e
      calls := [.setConfiguration connection.handle setConfiguration] }
  | .ok () =>
    { state :=
        { x with
          newConnections := x.newConnections ++ [connection]
          newConnectionWaiters := [] }
      result := .ok ()
      woken := x.newConnectionWaiters
      calls := [.setConfiguration connection.handle setConfiguration] }

/-- `clone` is the clone of the key-log file, if `try_clone` made one, and `box` the address of
the secrets buffer allocated for the connection. -/
def handleEventNewConnection (x : ListenerInnerExclusive ω) (connection : Nat) (clone : Option Nat)
    (box : Nat) (setParam setConfiguration : NativeResult) : ListenerRan ω NativeResult :=
  match x.sslkeylogFile, clone with
  | some _, some file =>
    match setParam with
    | .error e =>
      { state := x, result := .error e, calls := [.setTlsSecrets connection box setParam] }
    | .ok () =>
      let r := queueConnection x ⟨connection, some box, some file⟩ setConfiguration
      { r with calls := .setTlsSecrets connection box setParam :: r.calls }
  | _, _ => queueConnection x ⟨connection, none, none⟩ setConfiguration

def handleEventStopComplete (x : ListenerInnerExclusive ω) : ListenerRan ω NativeResult :=
  { state :=
      { x with
        state := .shutdownComplete
        newConnectionWaiters := []
        shutdownCompleteWaiters := [] }
    result := .ok ()
    woken := x.newConnectionWaiters ++ x.shutdownCompleteWaiters }

end Listener

end MsquicAsync
