import MsquicAsync.Connection.System

/-!
# What the steps of a connection leave alone

The parts that several steps share change little (`whenConnected_state`,
`checkedSendDatagram_state`, `pushAddrEvent_state`). So no call touches the live
datagram state, only `poll_event` takes out of the event queue, and only
`set_sslkeylog_file` touches the key log (`ConnectionSys.call_keeps`).
-/

namespace MsquicAsync

open Runs Connection

variable {ω : Type}

namespace ConnectionSys

@[simp] theorem after_inner {ρ : Type} (s : ConnectionSys ω) (r : ConnectionRan ω ρ)
    (g : ρ → ConnectionRes) : (s.after r g).state.inner = r.state := rfl

@[simp] theorem after_result {ρ : Type} (s : ConnectionSys ω) (r : ConnectionRan ω ρ)
    (g : ρ → ConnectionRes) : (s.after r g).result = g r.result := rfl

@[simp] theorem after_woken {ρ : Type} (s : ConnectionSys ω) (r : ConnectionRan ω ρ)
    (g : ρ → ConnectionRes) : (s.after r g).woken = r.woken := rfl

@[simp] theorem after_calls {ρ : Type} (s : ConnectionSys ω) (r : ConnectionRan ω ρ)
    (g : ρ → ConnectionRes) : (s.after r g).calls = r.calls := rfl

end ConnectionSys

namespace Connection

variable {x : ConnectionInnerExclusive ω} {P : ConnectionInnerExclusive ω → Prop}

/-- What holds whoever waits for the start, and after what the gate guards, holds after a poll
at the gate. -/
theorem whenConnected_state [WillWake ω] {ε α : Type} {cx : ω} {notStarted : ε}
    {wrap : ConnectionError → ε} {body : ConnectionRan ω (Outcome (Poll (Except ε α)))}
    (hx : ∀ waiters, P { x with startWaiters := waiters }) (hb : P body.state) :
    P (whenConnected x cx notStarted wrap body).state := by
  unfold whenConnected
  split
  · exact hx x.startWaiters
  · exact hx _
  · exact hb
  · exact hx x.startWaiters
  · exact hx x.startWaiters

theorem checkedSendDatagram_pool (x : ConnectionInnerExclusive ω) (buf : Bytes) (fresh : Nat)
    (native : NativeResult) :
    ∃ pool, (checkedSendDatagram x buf fresh native).state = { x with writePool := pool } := by
  unfold checkedSendDatagram
  split
  · exact ⟨_, rfl⟩
  · split
    · exact ⟨_, rfl⟩
    · cases native <;> exact ⟨_, rfl⟩

theorem checkedSendDatagram_state {buf : Bytes} {fresh : Nat} {native : NativeResult}
    (hx : ∀ pool, P { x with writePool := pool }) :
    P (checkedSendDatagram x buf fresh native).state := by
  obtain ⟨pool, h⟩ := checkedSendDatagram_pool x buf fresh native
  rw [h]
  exact hx pool

theorem pushAddrEvent_state {a b : Addr} {event : SocketAddr → SocketAddr → ConnectionEvent}
    (hx : ∀ events waiters, P { x with events := events, eventWaiters := waiters }) :
    P (pushAddrEvent x a b event).state := by
  unfold pushAddrEvent
  split
  · exact hx _ _
  · exact hx x.events x.eventWaiters

end Connection

/-! ## Calls -/

def ConnectionOp.IsSetSslkeylogFile : ConnectionOp ω → Prop
  | setSslkeylogFile _ _ _ => True
  | _ => False

def ConnectionOp.IsPollEvent : ConnectionOp ω → Prop
  | pollEvent _ => True
  | _ => False

/-- What a call leaves alone from `x` to `y`. -/
structure CallKeeps (op : ConnectionOp ω) (x y : ConnectionInnerExclusive ω) : Prop where
  dgramSendEnabled : y.dgramSendEnabled = x.dgramSendEnabled
  dgramMaxSendLength : y.dgramMaxSendLength = x.dgramMaxSendLength
  events : ¬ op.IsPollEvent → y.events = x.events
  sslkeylogFile : ¬ op.IsSetSslkeylogFile → y.sslkeylogFile = x.sslkeylogFile
  tlsSecrets : ¬ op.IsSetSslkeylogFile → y.tlsSecrets = x.tlsSecrets

/-- All of it. -/
def ConnectionInnerExclusive.kept (x : ConnectionInnerExclusive ω) :
    Bool × UInt16 × List ConnectionEvent × Option Nat × Option Nat :=
  (x.dgramSendEnabled, x.dgramMaxSendLength, x.events, x.sslkeylogFile, x.tlsSecrets)

theorem CallKeeps.of_kept {op : ConnectionOp ω} {x y : ConnectionInnerExclusive ω}
    (h : y.kept = x.kept) : CallKeeps op x y := by
  simp only [ConnectionInnerExclusive.kept, Prod.mk.injEq] at h
  obtain ⟨hs, hm, he, hf, ht⟩ := h
  exact ⟨hs, hm, fun _ => he, fun _ => hf, fun _ => ht⟩

theorem ConnectionSys.call_keeps [WillWake ω] (s : ConnectionSys ω) (op : ConnectionOp ω) :
    CallKeeps op s.inner (s.call op).state.inner := by
  cases op with
  | pollStart cx native =>
    refine .of_kept ?_
    simp only [call, after_inner, Connection.pollStart]
    cases s.inner.state with
    | opened => cases native <;> rfl
    | _ => rfl
  | pollAcceptInboundStream | pollAcceptInboundUniStream | pollReceiveDatagram =>
    refine .of_kept (whenConnected_state (P := fun y => y.kept = _) (fun _ => rfl) ?_)
    split <;> rfl
  | pollOpenOutboundStream =>
    exact .of_kept (whenConnected_state (P := fun y => y.kept = _) (fun _ => rfl) rfl)
  | pollSendDatagram cx buf fresh native =>
    refine .of_kept (whenConnected_state (P := fun y => y.kept = _) (fun _ => rfl) ?_)
    exact checkedSendDatagram_state (P := fun y => y.kept = _) fun _ => rfl
  | sendDatagram buf fresh native =>
    refine .of_kept ?_
    simp only [call, after_inner, Connection.sendDatagram]
    cases s.inner.state with
    | connected => exact checkedSendDatagram_state (P := fun y => y.kept = _) fun _ => rfl
    | _ => rfl
  | pollShutdown cx errorCode =>
    refine .of_kept ?_
    simp only [call, after_inner, Connection.pollShutdown]
    cases s.inner.state with
    | shutdownComplete => simp only; split <;> rfl
    | _ => rfl
  | shutdown errorCode =>
    refine .of_kept ?_
    simp only [call, after_inner, Connection.shutdown]
    cases s.inner.state <;> rfl
  | pollEvent cx =>
    simp only [call, after_inner, Connection.pollEvent]
    split
    · exact .of_kept rfl
    · exact .of_kept rfl
    · split <;> exact ⟨rfl, rfl, absurd trivial, fun _ => rfl, fun _ => rfl⟩
    · split <;> exact ⟨rfl, rfl, absurd trivial, fun _ => rfl, fun _ => rfl⟩
    · exact .of_kept rfl
  | setSslkeylogFile file box native =>
    simp only [call, after_inner, Connection.setSslkeylogFile]
    split
    · exact .of_kept rfl
    · split
      · cases native <;> exact ⟨rfl, rfl, fun _ => rfl, absurd trivial, absurd trivial⟩
      · exact ⟨rfl, rfl, fun _ => rfl, absurd trivial, absurd trivial⟩

end MsquicAsync
