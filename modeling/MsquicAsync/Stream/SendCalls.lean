import MsquicAsync.Stream.Accounting

/-!
# The send side, step by step

`SendStep` is an automaton on the state of a stream and the state of its send
side: the one place that says which step may move them, and which calls in the
send direction it makes on the way. Every step of a stream is a step of it
(`StreamSys.step_send`).
-/

namespace MsquicAsync

open Runs Ranges

variable {R ω : Type}

/-- A native call in the send direction that succeeded. -/
inductive SendCall where
  /-- A send without FIN. -/
  | plain
  /-- A send with FIN, a GRACEFUL shutdown or an ABORT_SEND shutdown. -/
  | last
  deriving DecidableEq, Repr

def StreamCall.sendCall? : StreamCall → Option SendCall
  | send _ flags _ (.ok ()) => some (if flags.fin then .last else .plain)
  | shutdown .GRACEFUL _ (.ok ()) | shutdown .ABORT_SEND _ (.ok ()) => some .last
  | _ => none

def sendCalls (calls : List StreamCall) : List SendCall := calls.filterMap StreamCall.sendCall?

theorem sendCalls_reports {calls : List StreamCall} (h : ∀ c ∈ calls, c.Reports) :
    sendCalls calls = [] := by
  refine filterMap_reports (fun c hc => ?_) h
  cases c with
  | send | shutdown => exact hc.elim
  | _ => rfl

/-- A write whose extra flags carry FIN; no caller in the crate makes one. -/
def StreamOp.ExtraFin : StreamOp ω → Prop
  | pollWrite _ _ _ extraFlags _ _ | pollWriteChunk _ _ _ extraFlags _ _
  | pollWriteChunks _ _ _ extraFlags _ _ => extraFlags.fin = true
  | _ => False

namespace StreamLabel

def ExtraFin : StreamLabel ω → Prop
  | call op => op.ExtraFin
  | event _ => False

/-- The peer's acceptance of the stream. -/
def Accepts [StatusApi] : StreamLabel ω → Prop
  | event (.startComplete status _ peerAccepted) =>
    StatusApi.isOk status = true ∧ peerAccepted = true
  | event .peerAccepted => True
  | _ => False

/-- The events that end the send side. -/
def EndsSend : StreamLabel ω → Prop
  | event (.peerReceiveAborted _) | event (.sendShutdownComplete _) => True
  | _ => False

def IsSendShutdownComplete : StreamLabel ω → Prop
  | event (.sendShutdownComplete _) => True
  | _ => False

section

variable {l : StreamLabel ω}

theorem Accepts.not_endsSend [StatusApi] (h : l.Accepts) : ¬ l.EndsSend := by
  cases l with
  | call => exact id
  | event ev =>
    cases ev with
    | peerReceiveAborted | sendShutdownComplete => exact fun _ => h
    | _ => exact id

theorem Accepts.not_isShutdownComplete [StatusApi] (h : l.Accepts) : ¬ l.IsShutdownComplete := by
  cases l with
  | call => exact id
  | event ev =>
    cases ev with
    | shutdownComplete => exact fun _ => h
    | _ => exact id

theorem EndsSend.not_isShutdownComplete (h : l.EndsSend) : ¬ l.IsShutdownComplete := by
  cases l with
  | call => exact id
  | event ev =>
    cases ev with
    | shutdownComplete => exact fun _ => h
    | _ => exact id

end

end StreamLabel

/-- The peer has accepted the stream; one that it opened itself in both directions counts as
accepted from the start. -/
def Accepted [StatusApi] (tr : List (StreamStep R ω)) (s : StreamSys R ω) : Prop :=
  (s.inner.localOpen = false ∧ s.inner.streamType = .bidirectional) ∨ ∃ e ∈ tr, e.label.Accepts

/-- What a step may do to the state of a stream and the state of its send side, with the calls
it makes in the send direction. -/
inductive SendStep [StatusApi] : StreamLabel ω → StreamState → StreamSendState → List SendCall →
    StreamState → StreamSendState → Prop where
  | idle {op : StreamOp ω} {a b} : SendStep (.call op) a b [] a b
  | started {op : StreamOp ω} {b} : SendStep (.call op) .opened b [] .start .start
  | sent {op : StreamOp ω} {a c} (h : c = .last → op.ExtraFin) :
    SendStep (.call op) a .startComplete [c] a .startComplete
  | finished {op : StreamOp ω} {a} : SendStep (.call op) a .startComplete [.last] a .shutdown
  | event {ev : MsquicStreamEvent} {a b} (ha : ¬ (StreamLabel.event ev : StreamLabel ω).Accepts)
    (he : ¬ (StreamLabel.event ev : StreamLabel ω).EndsSend)
    (hs : (StreamLabel.event ev : StreamLabel ω).IsShutdownComplete → a = .shutdownComplete) :
    SendStep (.event ev) a b [] a b
  | accepted {ev : MsquicStreamEvent} {a b} (h : (StreamLabel.event ev : StreamLabel ω).Accepts) :
    SendStep (.event ev) a b [] .startComplete .startComplete
  | ended {ev : MsquicStreamEvent} {a b} (h : (StreamLabel.event ev : StreamLabel ω).EndsSend) :
    SendStep (.event ev) a b [] a .shutdownComplete
  | shutDown {ev : MsquicStreamEvent} {a b}
    (h : (StreamLabel.event ev : StreamLabel ω).IsShutdownComplete) :
    SendStep (.event ev) a b [] .shutdownComplete .shutdownComplete

namespace SendStep

variable [StatusApi] {a a' : StreamState} {b b' : StreamSendState} {calls : List SendCall}

theorem of_call {op : StreamOp ω} (h : SendStep (.call op) a b calls a' b') :
    (a' = a ∧ b' = b) ∨ (a' = .start ∧ b' = .start) ∨
      (a' = a ∧ b = .startComplete ∧ b' = .shutdown ∧ .last ∈ calls) := by
  cases h with
  | idle | sent => exact .inl ⟨rfl, rfl⟩
  | started => exact .inr (.inl ⟨rfl, rfl⟩)
  | finished => exact .inr (.inr ⟨rfl, rfl, rfl, List.mem_singleton_self _⟩)

theorem of_event {ev : MsquicStreamEvent}
    (h : SendStep (.event ev : StreamLabel ω) a b calls a' b') :
    a' = a ∨ (a' = .startComplete ∧ (StreamLabel.event ev : StreamLabel ω).Accepts) ∨
      (a' = .shutdownComplete ∧ (StreamLabel.event ev : StreamLabel ω).IsShutdownComplete) := by
  cases h with
  | event | ended => exact .inl rfl
  | accepted ha => exact .inr (.inl ⟨rfl, ha⟩)
  | shutDown hs => exact .inr (.inr ⟨rfl, hs⟩)

end SendStep

/-! ## Writes -/

/-- What a write does to the send state and to those who wait for it; `forced` allows a send
with FIN that leaves the send side open. -/
structure WriteMove (forced : Prop) (x y : StreamInner R ω) (calls : List StreamCall) :
    Prop where
  sendState :
    (sendCalls calls = [] ∧ y.sendState = x.sendState) ∨
    (x.sendState = .startComplete ∧ y.sendState = .startComplete ∧
      ∃ c, sendCalls calls = [c] ∧ (c = .last → forced)) ∨
    (x.sendState = .startComplete ∧ y.sendState = .shutdown ∧ sendCalls calls = [.last])
  startWaiters : y.startWaiters = x.startWaiters ∨ x.sendState = .start
  shutdownWaiters : y.writeShutdownWaiters = x.writeShutdownWaiters ∨ y.sendState = .shutdown

namespace Stream

variable {x : StreamInner R ω} {forced : Prop}

theorem writeMove_sendWrite {α : Type} {extraFlags : SendFlags}
    {writeFn : WriteBuffer → WriteBuffer × WriteStatus α} {fresh : Nat} {native : NativeResult}
    (h : x.sendState = .startComplete) :
    WriteMove (extraFlags.fin = true) x (sendWrite x extraFlags writeFn fresh native).state
      (sendWrite x extraFlags writeFn fresh native).calls := by
  -- a send without FIN, unless the extra flags carry it
  have hplain {y : StreamInner R ω} {buffers : List QuicBuffer} {box : WriteBuffer}
      (hs : y.sendState = x.sendState) (h1 : y.startWaiters = x.startWaiters)
      (h2 : y.writeShutdownWaiters = x.writeShutdownWaiters) :
      WriteMove (extraFlags.fin = true) x y [.send buffers extraFlags box (.ok ())] := by
    refine ⟨.inr (.inl ⟨h, hs.trans h, _, rfl, fun hc => ?_⟩), .inl h1, .inl h2⟩
    by_contra hfin
    rw [if_neg hfin] at hc
    cases hc
  unfold sendWrite
  simp only
  split
  · cases native with
    | ok _ => exact hplain rfl rfl rfl
    | error _ => exact ⟨.inl ⟨rfl, rfl⟩, .inl rfl, .inl rfl⟩
  · cases native with
    | ok _ => exact hplain rfl rfl rfl
    | error _ => exact ⟨.inl ⟨rfl, rfl⟩, .inl rfl, .inl rfl⟩
  · exact ⟨.inl ⟨rfl, rfl⟩, .inl rfl, .inl rfl⟩
  · cases native with
    | ok _ => exact ⟨.inr (.inr ⟨h, rfl, rfl⟩), .inl rfl, .inl rfl⟩
    | error _ => exact ⟨.inl ⟨rfl, rfl⟩, .inl rfl, .inl rfl⟩

theorem writeMove_pollWriteGeneric [WillWake ω] {α : Type} {cx : ω} {extraFlags : SendFlags}
    {writeFn : WriteBuffer → WriteBuffer × WriteStatus α} {fresh : Nat} {native : NativeResult} :
    WriteMove (extraFlags.fin = true) x (pollWriteGeneric x cx extraFlags writeFn fresh native).state
      (pollWriteGeneric x cx extraFlags writeFn fresh native).calls := by
  unfold pollWriteGeneric
  split
  case h_2 h => exact ⟨.inl ⟨rfl, rfl⟩, .inr h, .inl rfl⟩
  case h_3 h => exact writeMove_sendWrite h
  all_goals exact ⟨.inl ⟨rfl, rfl⟩, .inl rfl, .inl rfl⟩

theorem writeMove_shutdownSend [WillWake ω] {cx : ω} {flags : StreamShutdownFlags}
    {errorCode : UInt64} {native : NativeResult} {done : Except WriteError Unit}
    (hf : flags ≠ .ABORT_RECEIVE) :
    WriteMove forced x (shutdownSend x cx flags errorCode native done).state
      (shutdownSend x cx flags errorCode native done).calls := by
  unfold shutdownSend
  simp only
  split
  case h_1 h => exact ⟨.inl ⟨rfl, rfl⟩, .inr h, .inl rfl⟩
  case h_2 h =>
    cases native with
    | ok _ =>
      refine ⟨.inr (.inr ⟨h, rfl, ?_⟩), .inl rfl, .inr rfl⟩
      cases flags with
      | GRACEFUL | ABORT_SEND => rfl
      | ABORT_RECEIVE => exact absurd rfl hf
    | error _ =>
      refine ⟨.inl ⟨?_, rfl⟩, .inl rfl, .inl rfl⟩
      cases flags <;> rfl
  case h_3 h => exact ⟨.inl ⟨rfl, rfl⟩, .inl rfl, .inr h⟩
  all_goals exact ⟨.inl ⟨rfl, rfl⟩, .inl rfl, .inl rfl⟩

theorem writeMove_abortWrite {errorCode : UInt64} {native : NativeResult} :
    WriteMove forced x (abortWrite x errorCode native).state
      (abortWrite x errorCode native).calls := by
  unfold abortWrite
  split
  case h_1 h =>
    cases native with
    | ok _ => exact ⟨.inr (.inr ⟨h, rfl, rfl⟩), .inl rfl, .inl rfl⟩
    | error _ => exact ⟨.inl ⟨rfl, rfl⟩, .inl rfl, .inl rfl⟩
  case h_2 => exact ⟨.inl ⟨rfl, rfl⟩, .inl rfl, .inl rfl⟩

end Stream

section

variable [RangeSet R] [WillWake ω] [StatusApi] {w : Nat} {s : StreamSys R ω}

theorem StreamSys.call_writeMove {op : StreamOp ω} (h : op.IsWrite) :
    WriteMove op.ExtraFin s.inner (s.call w op).state.inner (s.call w op).calls := by
  cases op with
  | pollWrite | pollWriteChunk | pollWriteChunks => exact Stream.writeMove_pollWriteGeneric
  | pollFinishWrite => exact Stream.writeMove_shutdownSend (fun h => by cases h)
  | pollAbortWrite => exact Stream.writeMove_shutdownSend (fun h => by cases h)
  | abortWrite => exact Stream.writeMove_abortWrite
  | _ => exact h.elim

/-! ## All steps -/

theorem StreamSys.call_sendStep {op : StreamOp ω} (h : op.IsRead ∨ op.IsHeld) :
    SendStep (.call op) s.inner.state s.inner.sendState (sendCalls (s.call w op).calls)
      (s.call w op).state.inner.state (s.call w op).state.inner.sendState := by
  rcases h with h | h
  · obtain ⟨popped, -, he⟩ := call_read (w := w) (s := s) h
    obtain ⟨_, _, _, _, hy⟩ := he.frame
    rw [hy, he.calls]
    exact .idle
  · obtain ⟨map, cursor, hy⟩ := call_held (w := w) (s := s) h
    rw [hy, sendCalls_reports (call_held_reports h)]
    exact .idle

theorem StreamSys.call_write_sendStep {op : StreamOp ω} (h : op.IsWrite) :
    SendStep (.call op) s.inner.state s.inner.sendState (sendCalls (s.call w op).calls)
      (s.call w op).state.inner.state (s.call w op).state.inner.sendState := by
  obtain ⟨_, _, _, _, hy⟩ := (call_write (w := w) (s := s) h).1.frame
  have hstate : (s.call w op).state.inner.state = s.inner.state :=
    congrArg (fun y => y.state) hy
  rw [hstate]
  rcases (call_writeMove (w := w) (s := s) h).sendState with ⟨hc, hs⟩ | ⟨hx, hs, c, hc, hf⟩ |
    ⟨hx, hs, hc⟩
  · rw [hc, hs]
    exact .idle
  · rw [hc, hs, hx]
    exact .sent hf
  · rw [hc, hs, hx]
    exact .finished

omit [RangeSet R] in
theorem StreamSys.pollStart_sendStep (cx : ω) (failedOnBlock : Bool) (native : NativeResult) :
    SendStep (.call (.pollStart cx failedOnBlock native)) s.inner.state s.inner.sendState
      (sendCalls (Stream.pollStart s.inner cx failedOnBlock native).calls)
      (Stream.pollStart s.inner cx failedOnBlock native).state.state
      (Stream.pollStart s.inner cx failedOnBlock native).state.sendState := by
  unfold Stream.pollStart
  split
  next hs =>
    cases native with
    | error e =>
      rw [hs]
      exact .idle
    | ok _ =>
      rw [hs]
      exact .started
  · exact .idle
  · cases s.inner.startStatus with
    | none => exact .idle
    | some startStatus =>
      simp only
      split
      · exact .idle
      · split <;> exact .idle

omit [WillWake ω] in
theorem StreamSys.event_sendStep (ev : MsquicStreamEvent) :
    SendStep (.event ev : StreamLabel ω) s.inner.state s.inner.sendState
      (sendCalls (s.dispatchEvent w ev).calls)
      (s.dispatchEvent w ev).state.inner.state (s.dispatchEvent w ev).state.inner.sendState := by
  cases ev with
  | startComplete status streamId peerAccepted =>
    simp only [dispatchEvent, after_inner, after_calls, Stream.handleEventStartComplete]
    by_cases h : StatusApi.isOk status = true ∧ peerAccepted = true
    · rw [if_pos h]
      split <;> exact .accepted h
    · rw [if_neg h]
      split <;> exact .event h id (fun hs => hs.elim)
  | peerAccepted => exact .accepted trivial
  | peerReceiveAborted | sendShutdownComplete => exact .ended trivial
  | sendComplete canceled clientContext =>
    simp only [dispatchEvent]
    split <;> exact .event id id (fun hs => hs.elim)
  | shutdownComplete cs ac ba cr ec st =>
    by_cases hs : s.inner.state = .shutdownComplete
    · simp only [dispatchEvent, after_inner, after_calls,
        Stream.handleEventShutdownComplete_again hs]
      exact .event id id (fun _ => hs)
    · obtain ⟨map, cursor, hy⟩ :=
        Stream.handleEventShutdownComplete_frame (w := w) hs cs ac ba cr ec st
      simp only [dispatchEvent, after_inner, after_calls, hy]
      rw [(Stream.handleEventShutdownComplete_first hs cs ac ba cr ec st).1,
        sendCalls_reports (Stream.discardBuffers_reports _ _ _)]
      exact .shutDown trivial
  | _ => exact .event id id (fun hs => hs.elim)

/-- **Every step of a stream moves its send side as the automaton does.** -/
theorem StreamSys.step_send (l : StreamLabel ω) :
    SendStep l s.inner.state s.inner.sendState (sendCalls (s.step w l).calls)
      (s.step w l).state.inner.state (s.step w l).state.inner.sendState := by
  cases l with
  | event ev => exact event_sendStep ev
  | call op =>
    rcases op.group with hop | hop | hop | ⟨cx, failedOnBlock, native, rfl⟩ |
      ⟨cx, errorCode, native, rfl⟩ | ⟨errorCode, native, rfl⟩
    · exact call_sendStep (.inl hop)
    · exact call_write_sendStep hop
    · exact call_sendStep (.inr hop)
    · exact pollStart_sendStep cx failedOnBlock native
    · obtain ⟨⟨_, _, _, hy⟩, -⟩ := Stream.abortSide_pollAbortRead s.inner cx errorCode native
      have hc : sendCalls (Stream.pollAbortRead s.inner cx errorCode native).calls = [] := by
        unfold Stream.pollAbortRead
        split
        case h_2 => cases native <;> rfl
        case h_3 => cases s.inner.connError <;> cases s.inner.recvErrorCode <;> rfl
        all_goals rfl
      simp only [step, call, after_inner, after_calls, hy, hc]
      exact .idle
    · obtain ⟨⟨_, _, _, hy⟩, -⟩ := Stream.abortSide_abortRead s.inner errorCode native
      have hc : sendCalls (Stream.abortRead s.inner errorCode native).calls = [] := by
        unfold Stream.abortRead
        split
        · cases native <;> rfl
        · rfl
      simp only [step, call, after_inner, after_calls, hy, hc]
      exact .idle

/-- A stream stays what it was opened as, and only Receive adds to `recv_len`. -/
theorem StreamSys.step_shared (l : StreamLabel ω) :
    (s.step w l).state.inner.localOpen = s.inner.localOpen ∧
      (s.step w l).state.inner.streamType = s.inner.streamType ∧
      (l.receive? = none → (s.step w l).state.inner.recvLen = s.inner.recvLen) := by
  cases l with
  | event ev =>
    cases ev with
    | startComplete status streamId peerAccepted =>
      obtain ⟨⟨_, _, _, _, _, _, hy⟩, -, -⟩ :=
        Stream.startSide_startComplete s.inner status streamId peerAccepted
      simp only [step, dispatchEvent, after_inner, hy, and_self, implies_true]
    | receive => exact ⟨rfl, rfl, fun h => by cases h⟩
    | sendComplete canceled clientContext =>
      simp only [step, dispatchEvent]
      split <;> exact ⟨rfl, rfl, fun _ => rfl⟩
    | shutdownComplete cs ac ba cr ec st =>
      by_cases hs : s.inner.state = .shutdownComplete
      · simp only [step, dispatchEvent, after_inner,
          Stream.handleEventShutdownComplete_again hs, and_self, implies_true]
      · obtain ⟨map, cursor, hy⟩ :=
          Stream.handleEventShutdownComplete_frame (w := w) hs cs ac ba cr ec st
        simp only [step, dispatchEvent, after_inner, hy]
        exact ⟨rfl, rfl, fun _ => rfl⟩
    | _ => exact ⟨rfl, rfl, fun _ => rfl⟩
  | call op =>
    rcases op.group with hop | hop | hop | ⟨cx, failedOnBlock, native, rfl⟩ |
      ⟨cx, errorCode, native, rfl⟩ | ⟨errorCode, native, rfl⟩
    · obtain ⟨popped, -, he⟩ := call_read (w := w) (s := s) hop
      obtain ⟨_, _, _, _, hy⟩ := he.frame
      simp only [step, hy, and_self, implies_true]
    · obtain ⟨_, _, _, _, hy⟩ := (call_write (w := w) (s := s) hop).1.frame
      simp only [step, hy, and_self, implies_true]
    · obtain ⟨map, cursor, hy⟩ := call_held (w := w) (s := s) hop
      simp only [step, hy, and_self, implies_true]
    · obtain ⟨⟨_, _, _, _, _, _, hy⟩, -, -⟩ :=
        Stream.startSide_pollStart s.inner cx failedOnBlock native
      simp only [step, call, after_inner, hy, and_self, implies_true]
    · obtain ⟨⟨_, _, _, hy⟩, -⟩ := Stream.abortSide_pollAbortRead s.inner cx errorCode native
      simp only [step, call, after_inner, hy, and_self, implies_true]
    · obtain ⟨⟨_, _, _, hy⟩, -⟩ := Stream.abortSide_abortRead s.inner errorCode native
      simp only [step, call, after_inner, hy, and_self, implies_true]

theorem accepted_step (ok : StreamContract R ω) (tr : List (StreamStep R ω)) (l : StreamLabel ω) :
    Accepted ((streamSystem w ok).take s l :: tr) ((streamSystem w ok).next s l).1 ↔
      l.Accepts ∨ Accepted tr s := by
  obtain ⟨hl, ht, -⟩ := StreamSys.step_shared (w := w) (s := s) l
  unfold Accepted
  simp only [streamSystem, hl, ht, List.exists_mem_cons_iff, System.take_label]
  tauto

end

end MsquicAsync
