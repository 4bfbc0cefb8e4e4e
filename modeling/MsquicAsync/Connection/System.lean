import MsquicAsync.Lib.Runs
import MsquicAsync.Connection.Events

/-!
# Runs of a connection

A connection with the write buffers MsQuic holds for it, stepped by the
application's calls and MsQuic's events. Every step is one critical section, so
a run is an arbitrary interleaving of any number of tasks and callbacks.
-/

namespace MsquicAsync

open Runs

/-- A call of the application; `cx` is the waker of the polling task. -/
inductive ConnectionOp (ω : Type) where
  | pollStart (cx : ω) (native : NativeResult)
  | pollAcceptInboundStream (cx : ω)
  | pollAcceptInboundUniStream (cx : ω)
  | pollReceiveDatagram (cx : ω)
  | pollSendDatagram (cx : ω) (buf : Bytes) (fresh : Nat) (native : NativeResult)
  | sendDatagram (buf : Bytes) (fresh : Nat) (native : NativeResult)
  | pollShutdown (cx : ω) (errorCode : UInt64)
  | shutdown (errorCode : UInt64)
  | pollEvent (cx : ω)
  | pollOpenOutboundStream (cx : ω)
  | setSslkeylogFile (file box : Nat) (native : NativeResult)

inductive ConnectionLabel (ω : Type) where
  | call (op : ConnectionOp ω)
  | event (ev : MsquicConnectionEvent)

inductive ConnectionRes where
  | start (r : Outcome (Poll (Except ConnectionStartError Unit)))
  | acceptInboundStream (r : Outcome (Poll (Except StreamStartError Nat)))
  | acceptInboundUniStream (r : Outcome (Poll (Except StreamStartError Nat)))
  | receiveDatagram (r : Outcome (Poll (Except DgramReceiveError Bytes)))
  | pollSendDatagram (r : Outcome (Poll (Except DgramSendError Unit)))
  | sendDatagram (r : Outcome (Except DgramSendError Unit))
  | pollShutdown (r : Outcome (Poll (Except ShutdownError Unit)))
  | shutdown (r : Except ShutdownError Unit)
  | event (r : Outcome (Poll (Except EventError ConnectionEvent)))
  | openOutboundStream (r : Outcome (Poll (Except StreamStartError Unit)))
  | setSslkeylogFile (r : Except ConnectionError Unit)
  | callback (r : NativeResult)

/-- The poll is pending. -/
def ConnectionRes.Pending : ConnectionRes → Prop
  | start r => r = .returned .pending
  | acceptInboundStream r => r = .returned .pending
  | acceptInboundUniStream r => r = .returned .pending
  | receiveDatagram r => r = .returned .pending
  | pollSendDatagram r => r = .returned .pending
  | pollShutdown r => r = .returned .pending
  | event r => r = .returned .pending
  | openOutboundStream r => r = .returned .pending
  | _ => False

structure ConnectionSys (ω : Type) where
  inner : ConnectionInnerExclusive ω
  /-- The boxes handed to MsQuic and not yet reclaimed. -/
  native : List WriteBuffer := []

/-- The boxes the datagram sends among the calls handed over. -/
def acceptedDatagrams (calls : List ConnectionCall) : List WriteBuffer :=
  calls.filterMap fun
    | .datagramSend _ context (.ok ()) => some context
    | _ => none

namespace ConnectionSys

variable {ω ρ : Type}

/-- A call's effect on the whole system. -/
def after (s : ConnectionSys ω) (r : ConnectionRan ω ρ) (g : ρ → ConnectionRes) :
    Ran (ConnectionSys ω) ω ConnectionCall ConnectionRes :=
  r.lift (fun x => ⟨x, s.native ++ acceptedDatagrams r.calls⟩) g

def call [WillWake ω] (s : ConnectionSys ω) :
    ConnectionOp ω → Ran (ConnectionSys ω) ω ConnectionCall ConnectionRes
  | .pollStart cx native => s.after (Connection.pollStart s.inner cx native) .start
  | .pollAcceptInboundStream cx =>
    s.after (Connection.pollAcceptInboundStream s.inner cx) .acceptInboundStream
  | .pollAcceptInboundUniStream cx =>
    s.after (Connection.pollAcceptInboundUniStream s.inner cx) .acceptInboundUniStream
  | .pollReceiveDatagram cx => s.after (Connection.pollReceiveDatagram s.inner cx) .receiveDatagram
  | .pollSendDatagram cx buf fresh native =>
    s.after (Connection.pollSendDatagram s.inner cx buf fresh native) .pollSendDatagram
  | .sendDatagram buf fresh native =>
    s.after (Connection.sendDatagram s.inner buf fresh native) .sendDatagram
  | .pollShutdown cx errorCode =>
    s.after (Connection.pollShutdown s.inner cx errorCode) .pollShutdown
  | .shutdown errorCode => s.after (Connection.shutdown s.inner errorCode) .shutdown
  | .pollEvent cx => s.after (Connection.pollEvent s.inner cx) .event
  | .pollOpenOutboundStream cx =>
    s.after (Connection.pollOpenOutboundStream s.inner cx) .openOutboundStream
  | .setSslkeylogFile file box native =>
    s.after (Connection.setSslkeylogFile s.inner file box native) .setSslkeylogFile

/-- `ConnectionInner::dispatch_event`. -/
def dispatchEvent (s : ConnectionSys ω) :
    MsquicConnectionEvent → Ran (ConnectionSys ω) ω ConnectionCall ConnectionRes
  | .peerCertificateReceived verdict => { state := s, result := .callback verdict }
  | .connected secrets => s.after (Connection.handleEventConnected s.inner secrets) .callback
  | .shutdownInitiatedByTransport status errorCode =>
    s.after (Connection.handleEventShutdownInitiatedByTransport s.inner status errorCode) .callback
  | .shutdownInitiatedByPeer errorCode =>
    s.after (Connection.handleEventShutdownInitiatedByPeer s.inner errorCode) .callback
  | .shutdownComplete _ _ _ => s.after (Connection.handleEventShutdownComplete s.inner) .callback
  | .peerStreamStarted stream streamType =>
    s.after (Connection.handleEventPeerStreamStarted s.inner stream streamType) .callback
  | .streamsAvailable _ _ => { state := s, result := .callback (.ok ()) }
  | .datagramStateChanged sendEnabled maxSendLength =>
    s.after (Connection.handleEventDatagramStateChanged s.inner sendEnabled maxSendLength) .callback
  | .datagramReceived buffer =>
    s.after (Connection.handleEventDatagramReceived s.inner buffer) .callback
  | .datagramSendStateChanged clientContext state =>
    match state with
    | .sent | .canceled =>
      match WriteBuffer.fromRaw s.native clientContext with
      | some (writeBuf, native) =>
        { s with native := native }.after
          (Connection.handleEventDatagramSendStateChanged s.inner writeBuf state) .callback
      -- a context that MsQuic does not own: it never reports one
      | none => { state := s, result := .callback (.ok ()) }
    | _ => { state := s, result := .callback (.ok ()) }
  | .localAddressesChanged added removed lostPaths =>
    s.after (Connection.handleEventLocalAddressesChanged s.inner added removed lostPaths) .callback
  | .notifyObservedAddress localAddress observedAddress =>
    s.after (Connection.handleEventNotifyObservedAddress s.inner localAddress observedAddress)
      .callback
  | .notifyRemoteAddressAdded address sequenceNumber =>
    s.after (Connection.handleEventNotifyRemoteAddressAdded s.inner address sequenceNumber) .callback
  | .pathValidated localAddress remoteAddress =>
    s.after (Connection.handleEventPathValidated s.inner localAddress remoteAddress) .callback
  | .notifyRemoteAddressRemoved sequenceNumber =>
    s.after (Connection.handleEventNotifyRemoteAddressRemoved s.inner sequenceNumber) .callback
  | .pathAdded peerAddress localAddress pathId =>
    s.after (Connection.handleEventPathAdded s.inner localAddress peerAddress pathId) .callback
  | .pathRemoved peerAddress localAddress pathId =>
    s.after (Connection.handleEventPathRemoved s.inner localAddress peerAddress pathId) .callback
  | .pathStatusChanged peerAddress localAddress pathId isActive =>
    s.after (Connection.handleEventPathStatusChanged s.inner localAddress peerAddress pathId isActive)
      .callback
  | .other => { state := s, result := .callback (.ok ()) }

def step [WillWake ω] (s : ConnectionSys ω) :
    ConnectionLabel ω → Ran (ConnectionSys ω) ω ConnectionCall ConnectionRes
  | .call op => s.call op
  | .event ev => s.dispatchEvent ev

/-- What `Connection::new` and `Connection::from_raw` build. -/
inductive Init : ConnectionSys ω → Prop where
  | new : Init ⟨.new .opened none none, []⟩
  | fromRaw (tlsSecrets sslkeylogFile : Option Nat) :
      Init ⟨.new .connected tlsSecrets sslkeylogFile, []⟩

end ConnectionSys

abbrev ConnectionStep (ω : Type) :=
  Step (ConnectionSys ω) (ConnectionLabel ω) (Out ω ConnectionCall ConnectionRes)

/-- The system of one connection under a contract for its environment. -/
def connectionSystem {ω : Type} [WillWake ω]
    (ok : List (ConnectionStep ω) → ConnectionSys ω → ConnectionLabel ω → Prop) :
    System (ConnectionSys ω) (ConnectionLabel ω) (Out ω ConnectionCall ConnectionRes) where
  init := ConnectionSys.Init
  ok := ok
  next s l := ((s.step l).state, (s.step l).toOut)

section

variable {ω : Type}

def ConnectionLabel.IsShutdownComplete : ConnectionLabel ω → Prop
  | .event (.shutdownComplete _ _ _) => True
  | _ => False

def ConnectionLabel.IsConnected : ConnectionLabel ω → Prop
  | .event (.connected _) => True
  | _ => False

/-- The label is one of MsQuic's events. -/
def ConnectionLabel.IsEvent : ConnectionLabel ω → Prop
  | .event _ => True
  | .call _ => False

/-- No event follows ShutdownComplete. -/
def NothingFollowsShutdownComplete (tr : List (ConnectionStep ω)) (_ : ConnectionSys ω)
    (l : ConnectionLabel ω) : Prop :=
  l.IsEvent → ∀ e ∈ tr, ¬ e.label.IsShutdownComplete

end

end MsquicAsync
