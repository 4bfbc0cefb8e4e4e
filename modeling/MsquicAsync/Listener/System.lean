import MsquicAsync.Lib.Runs
import MsquicAsync.Listener.State

/-!
# Runs of a listener

Every call and callback is one critical section, except that a `poll_stop` that
stops the listener calls MsQuic in a step of its own, after the lock: until then
its future is among `stopping`. Accept and stop futures hold nothing but a
reference to the listener, so to drop one is not to poll it again. `session`
counts the successful starts.
-/

namespace MsquicAsync

open Runs

inductive ListenerLabel (ω : Type) where
  | start (alpn : List Bytes) (localAddress : Option SocketAddr) (native : NativeResult)
  | startOnPort (alpn : List Bytes) (localPort : Option UInt16) (native : NativeResult)
  | pollAccept (cx : ω)
  /-- The locked part of a poll of the stop future `fut`. -/
  | pollStop (fut : Nat) (cx : ω)
  /-- The call of MsQuic that a poll of `fut` still has to make. -/
  | nativeStop (fut : Nat)
  | setSslkeylogFile (file : Nat)
  | newConnection (connection : Nat) (clone : Option Nat) (box : Nat)
      (setParam setConfiguration : NativeResult)
  | stopComplete (appCloseInProgress : Bool)

inductive ListenerRes where
  | start (r : Except ListenError Unit)
  | accept (r : Poll (Except ListenError AcceptedConnection))
  | stop (r : Poll (Except ListenError Unit))
  | nativeStop
  | setSslkeylogFile (r : Except ListenError Unit)
  | callback (r : NativeResult)
  deriving DecidableEq

structure ListenerSys (ω : Type) where
  inner : ListenerInnerExclusive ω
  stopping : List Nat := []
  session : Nat := 0

namespace ListenerSys

variable {ω : Type}

/-- A start's effect on the whole system. -/
def afterStart (s : ListenerSys ω) (r : ListenerRan ω (Except ListenError Unit)) :
    Ran (ListenerSys ω) ω ListenerCall ListenerRes :=
  r.lift (fun x => { s with inner := x, session := s.session + r.result.toBool.toNat }) .start

def step [WillWake ω] (s : ListenerSys ω) :
    ListenerLabel ω → Ran (ListenerSys ω) ω ListenerCall ListenerRes
  | .start alpn localAddress native => s.afterStart (Listener.start s.inner alpn localAddress native)
  | .startOnPort alpn localPort native =>
    s.afterStart (Listener.startOnPort s.inner alpn localPort native)
  | .pollAccept cx => (Listener.pollAccept s.inner cx).lift (fun x => { s with inner := x }) .accept
  | .pollStop fut cx =>
    let r := Listener.pollStop s.inner cx
    r.lift
      (fun x => { s with inner := x, stopping := if r.result.2 then fut :: s.stopping else s.stopping })
      fun answer => .stop answer.1
  | .nativeStop fut =>
    { state := { s with stopping := s.stopping.erase fut }, result := .nativeStop, calls := [.stop] }
  | .setSslkeylogFile file =>
    (Listener.setSslkeylogFile s.inner file).lift (fun x => { s with inner := x }) .setSslkeylogFile
  | .newConnection connection clone box setParam setConfiguration =>
    (Listener.handleEventNewConnection s.inner connection clone box setParam setConfiguration).lift
      (fun x => { s with inner := x }) .callback
  | .stopComplete _ =>
    (Listener.handleEventStopComplete s.inner).lift (fun x => { s with inner := x }) .callback

end ListenerSys

abbrev ListenerStep (ω : Type) :=
  Step (ListenerSys ω) (ListenerLabel ω) (Out ω ListenerCall ListenerRes)

/-- The system of one listener under a contract for its environment. -/
def listenerSystem {ω : Type} [WillWake ω]
    (ok : List (ListenerStep ω) → ListenerSys ω → ListenerLabel ω → Prop) :
    System (ListenerSys ω) (ListenerLabel ω) (Out ω ListenerCall ListenerRes) where
  init s := s = { inner := {} }
  ok := ok
  next s l := ((s.step l).state, (s.step l).toOut)

/-- A future is polled by one task at a time, and a poll calls MsQuic once if it has decided
to. -/
def OnePollAtATime {ω : Type} (_ : List (ListenerStep ω)) (s : ListenerSys ω) :
    ListenerLabel ω → Prop
  | .pollStop fut _ => fut ∉ s.stopping
  | .nativeStop fut => fut ∈ s.stopping
  | _ => True

instance {ω : Type} (tr : List (ListenerStep ω)) (s : ListenerSys ω) :
    (l : ListenerLabel ω) → Decidable (OnePollAtATime tr s l)
  | .pollStop fut _ => inferInstanceAs (Decidable (fut ∉ s.stopping))
  | .nativeStop fut => inferInstanceAs (Decidable (fut ∈ s.stopping))
  | .start _ _ _ | .startOnPort _ _ _ | .pollAccept _ | .setSslkeylogFile _
  | .newConnection _ _ _ _ _ | .stopComplete _ => inferInstanceAs (Decidable True)

instance {ω : Type} [WillWake ω] (tr : List (ListenerStep ω)) (s : ListenerSys ω)
    (l : ListenerLabel ω) : Decidable ((listenerSystem OnePollAtATime).ok tr s l) :=
  inferInstanceAs (Decidable (OnePollAtATime tr s l))

end MsquicAsync
