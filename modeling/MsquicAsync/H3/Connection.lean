import MsquicAsync.OpenOutbound
import MsquicAsync.H3.Streams

/-!
# The connection adapters for HTTP/3

Each method polls the connection and converts the error it answers with. All
conversions end in `convert_connection_error`, which unwraps the status of a
connection that the transport has shut down.
-/

namespace MsquicAsync.H3

open Ranges

/-- A `ConnectionErrorIncoming`; `undefined` may also box an error of the method, an `ε`. -/
inductive MethodError (ε : Type) where
  | connection (e : ConnectionErrorIncoming)
  | undefined (e : ε)
  deriving DecidableEq, Repr

inductive SendDatagramErrorIncoming where
  | notAvailable
  | tooLarge
  | connectionError (e : MethodError DgramSendError)
  deriving DecidableEq, Repr

/-- `map_err` with a conversion that may panic. -/
def mapErr {ε ε' α : Type} (f : ε → Outcome ε') : Except ε α → Outcome (Except ε' α)
  | .ok a => .returned (.ok a)
  | .error e => (f e).map .error

/-- `map_err` under a poll. -/
def mapPollErr {ε ε' α : Type} (f : ε → Outcome ε') :
    Poll (Except ε α) → Outcome (Poll (Except ε' α))
  | .ready r => (mapErr f r).map .ready
  | .pending => .returned .pending

section

variable [StatusApi]

def convertStartError : StreamStartError → Outcome (MethodError StreamStartError)
  | .connectionLost error => (convertConnectionError error).map .connection
  | error => .returned (.undefined error)

/-- `convert_h3_error_to_datagram_error` keeps each variant. -/
def convertDgramSendError : DgramSendError → Outcome SendDatagramErrorIncoming
  | .denied => .returned .notAvailable
  | .tooBig => .returned .tooLarge
  | .connectionLost e => (convertConnectionError e).map fun e => .connectionError (.connection e)
  | error => .returned (.connectionError (.undefined error))

def convertDgramRecvError : DgramReceiveError → Outcome (MethodError DgramReceiveError)
  | .connectionLost e => (convertConnectionError e).map .connection
  | error => .returned (.undefined error)

variable {R ω : Type} [WillWake ω]

/-- The stream is split into its halves by whoever is handed it. -/
def pollAcceptBidi (x : ConnectionInnerExclusive ω) (cx : ω) :
    ConnectionRan ω (Outcome (Poll (Except (MethodError StreamStartError) Nat))) :=
  (Connection.pollAcceptInboundStream x cx).lift id fun r => r.bind (mapPollErr convertStartError)

def pollAcceptRecv (x : ConnectionInnerExclusive ω) (cx : ω) :
    ConnectionRan ω (Outcome (Poll (Except (MethodError StreamStartError) (RecvStream Nat)))) :=
  (Connection.pollAcceptInboundUniStream x cx).lift id fun r =>
    (r.bind (mapPollErr convertStartError)).map fun p => p.map fun res => res.map RecvStream.new

/-- What `poll_open_bidi` and `poll_open_send` share: the poll of the future they hold. They wrap
the error in a `StreamErrorIncoming`, and split the stream. -/
def pollOpen [RangeSet R] (conn : ConnectionInnerExclusive ω) (opening : OpenOutboundStream R ω)
    (cx : ω) (opened native : NativeResult) :
    Ran (ConnectionInnerExclusive ω × OpenOutboundStream R ω) ω OpenCall
      (Outcome (Poll (Except (MethodError StreamStartError) (StreamSys R ω)))) :=
  (opening.poll conn cx opened native).lift id fun r => r.bind (mapPollErr convertStartError)

/-- `SendDatagramHandler::send_datagram`. -/
def sendDatagram (x : ConnectionInnerExclusive ω) (data : Bytes) (fresh : Nat)
    (native : NativeResult) : ConnectionRan ω (Outcome (Except SendDatagramErrorIncoming Unit)) :=
  (Connection.sendDatagram x data fresh native).lift id fun r =>
    r.bind (mapErr convertDgramSendError)

/-- `RecvDatagramHandler::poll_incoming_datagram`. -/
def pollIncomingDatagram (x : ConnectionInnerExclusive ω) (cx : ω) :
    ConnectionRan ω (Outcome (Poll (Except (MethodError DgramReceiveError) Bytes))) :=
  (Connection.pollReceiveDatagram x cx).lift id fun r =>
    r.bind (mapPollErr convertDgramRecvError)

end

end MsquicAsync.H3
