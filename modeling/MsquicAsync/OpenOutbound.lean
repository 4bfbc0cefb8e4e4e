import MsquicAsync.Connection.Lifecycle
import MsquicAsync.Stream.SendCalls

/-!
# Opening a stream

`OpenOutboundStream` is a future over a connection and the stream it opens. A
poll passes the connection's gate, opens the stream once, and polls its start;
the stream leaves the future when it has started. The stream has started when
the peer has accepted it, or, by the stored start status alone, when it was torn
down after a start that succeeded locally (`OpenSys.DeadPoll`).
-/

namespace MsquicAsync

open Runs Ranges

structure OpenOutboundStream (R ω : Type) where
  streamType : Option StreamType
  stream : Option (StreamSys R ω)
  failOnBlocked : Bool

/-- The native calls of a connection, a future on it and the stream it opens. -/
inductive OpenCall where
  | connection (c : ConnectionCall)
  | streamOpen (streamType : StreamType) (result : NativeResult)
  | stream (c : StreamCall)

/-- How a poll of the future ends. -/
abbrev OpenResult (R ω : Type) := Outcome (Poll (Except StreamStartError (StreamSys R ω)))

namespace OpenOutboundStream

variable {R ω : Type} [WillWake ω] [StatusApi]

/-- Poll the start of `s` and take it out of the future once it has started. -/
def startStream (f : OpenOutboundStream R ω) (s : StreamSys R ω) (cx : ω) (native : NativeResult) :
    Ran (OpenOutboundStream R ω) ω OpenCall (OpenResult R ω) :=
  let r := Stream.pollStart s.inner cx f.failOnBlocked native
  let s := { s with inner := r.state }
  { state :=
      { f with
        stream :=
          match r.result with
          | .returned (.ready (.ok ())) => none
          | _ => some s }
    result := r.result.map fun p => p.map fun res => res.map fun _ => s
    woken := r.woken
    calls := r.calls.map .stream }

variable [RangeSet R]

/-- The poll behind the connection's gate; `opened` is what the native `StreamOpen` returns. -/
def resume (f : OpenOutboundStream R ω) (cx : ω) (opened native : NativeResult) :
    Ran (OpenOutboundStream R ω) ω OpenCall (OpenResult R ω) :=
  match f.stream with
  | some s => f.startStream s cx native
  | none =>
    match f.streamType with
    | none => { state := f, result := .panicked "unwrap" }
    | some streamType =>
      let f := { f with streamType := none }
      match opened with
      | .error e =>
        { state := f
          result := .returned (.ready (.error (.otherError e)))
          calls := [.streamOpen streamType opened] }
      | .ok () =>
        let r := f.startStream { inner := .opened streamType } cx native
        { r with calls := .streamOpen streamType opened :: r.calls }

/-- `OpenOutboundStream::poll`, under the connection's lock. -/
def poll (conn : ConnectionInnerExclusive ω) (f : OpenOutboundStream R ω) (cx : ω)
    (opened native : NativeResult) :
    Ran (ConnectionInnerExclusive ω × OpenOutboundStream R ω) ω OpenCall (OpenResult R ω) :=
  let gate := Connection.pollOpenOutboundStream conn cx
  match gate.result with
  | .returned (.ready (.ok ())) => (f.resume cx opened native).lift (gate.state, ·) id
  | .returned (.ready (.error e)) =>
    { state := (gate.state, f), result := .returned (.ready (.error e)) }
  | .returned .pending => { state := (gate.state, f), result := .returned .pending }
  | .panicked message => { state := (gate.state, f), result := .panicked message }

end OpenOutboundStream

/-! ## Runs -/

inductive OpenLabel (ω : Type) where
  | conn (l : ConnectionLabel ω)
  /-- An event on the stream that the future holds. -/
  | stream (ev : MsquicStreamEvent)
  | poll (cx : ω) (opened native : NativeResult)

inductive OpenRes (R ω : Type) where
  | conn (r : ConnectionRes)
  | stream (r : StreamRes)
  | poll (r : OpenResult R ω)
  | noStream

structure OpenSys (R ω : Type) where
  conn : ConnectionSys ω
  future : OpenOutboundStream R ω

namespace OpenSys

variable {R ω : Type} [WillWake ω] [StatusApi] [RangeSet R]

def step (w : Nat) (s : OpenSys R ω) :
    OpenLabel ω → Ran (OpenSys R ω) ω OpenCall (OpenRes R ω)
  | .conn l =>
    let r := s.conn.step l
    { state := { s with conn := r.state }
      result := .conn r.result
      woken := r.woken
      calls := r.calls.map .connection }
  | .stream ev =>
    match s.future.stream with
    | some x =>
      let r := x.dispatchEvent w ev
      { state := { s with future := { s.future with stream := some r.state } }
        result := .stream r.result
        woken := r.woken
        calls := r.calls.map .stream }
    | none => { state := s, result := .noStream }
  | .poll cx opened native =>
    (s.future.poll s.conn.inner cx opened native).lift
      (fun p => ⟨{ s.conn with inner := p.1 }, p.2⟩) .poll

/-- What `Connection::open_outbound_stream` builds on a connection. -/
inductive Init : OpenSys R ω → Prop where
  | open {conn : ConnectionSys ω} (h : ConnectionSys.Init conn) (streamType : StreamType)
      (failOnBlocked : Bool) : Init ⟨conn, some streamType, none, failOnBlocked⟩

end OpenSys

abbrev OpenStep (R ω : Type) :=
  Step (OpenSys R ω) (OpenLabel ω) (Out ω OpenCall (OpenRes R ω))

/-- A connection and a future that opens a stream on it. -/
def openSystem {R ω : Type} [RangeSet R] [WillWake ω] [StatusApi] (w : Nat)
    (ok : List (OpenStep R ω) → OpenSys R ω → OpenLabel ω → Prop) :
    System (OpenSys R ω) (OpenLabel ω) (Out ω OpenCall (OpenRes R ω)) where
  init := OpenSys.Init
  ok := ok
  next s l := ((s.step w l).state, (s.step w l).toOut)

/-! ## The accepted stream -/

namespace OpenLabel

variable {ω : Type}

def IsPoll : OpenLabel ω → Prop
  | poll _ _ _ => True
  | _ => False

def IsStream : OpenLabel ω → Prop
  | stream _ => True
  | _ => False

/-- The peer's acceptance of the stream. -/
def Accepts [StatusApi] : OpenLabel ω → Prop
  | stream ev => (StreamLabel.event ev : StreamLabel ω).Accepts
  | _ => False

def IsStartComplete : OpenLabel ω → Prop
  | stream (.startComplete _ _ _) => True
  | _ => False

theorem IsStartComplete.isStream {l : OpenLabel ω} (h : l.IsStartComplete) : l.IsStream := by
  cases l with
  | stream ev => trivial
  | _ => exact h

/-- The events that StartComplete precedes. -/
def FollowsStart : OpenLabel ω → Prop
  | stream .peerAccepted | stream (.shutdownComplete _ _ _ _ _ _) => True
  | _ => False

end OpenLabel

section

variable {R ω : Type}

/-- The poll answers with the stream. -/
def OpenRes.Yields : OpenRes R ω → Prop
  | poll (.returned (.ready (.ok _))) => True
  | _ => False

/-- The poll answers with an error. -/
def OpenRes.Fails : OpenRes R ω → Prop
  | poll (.returned (.ready (.error _))) => True
  | _ => False

variable [StatusApi]

/-- The peer has accepted the stream. -/
def StreamAccepted (tr : List (OpenStep R ω)) : Prop := ∃ e ∈ tr, e.label.Accepts

/-- Events come for a stream that the future holds, and StartComplete comes before acceptance
and ShutdownComplete. -/
structure OpenOrder (tr : List (OpenStep R ω)) (s : OpenSys R ω) (l : OpenLabel ω) : Prop where
  target : l.IsStream → s.future.stream ≠ none
  startFirst : l.FollowsStart → ∃ e ∈ tr, e.label.IsStartComplete

/-- The start was blocked on the peer's limit: it waits for it, or has failed on it. -/
def StreamInner.Blocked (x : StreamInner R ω) : Prop :=
  ∃ status, x.startStatus = some status ∧
    (StatusApi.isOk status = true ∨
      StatusApi.tryAsStatusCode status = some .streamLimitReached)

/-- The future's stream was torn down with its start blocked. -/
def OpenSys.TornDown (s : OpenSys R ω) : Prop :=
  ∃ x, s.future.stream = some x ∧ x.inner.state = .shutdownComplete ∧ x.inner.Blocked

/-- A poll yields an accepted stream only, and an error where the stream was torn down before
its acceptance. -/
structure OpenSound (tr : List (OpenStep R ω)) (e : OpenStep R ω) : Prop where
  accepted : e.out.result.Yields → StreamAccepted tr
  blocked : e.label.IsPoll → ¬ StreamAccepted tr → e.pre.TornDown → e.out.result.Fails

/-- A poll on a connected connection whose stream started locally, was never accepted and has
been torn down. -/
def OpenSys.DeadPoll (tr : List (OpenStep R ω)) (s : OpenSys R ω) (l : OpenLabel ω) : Prop :=
  l.IsPoll ∧ s.conn.inner.state = .connected ∧ ¬ StreamAccepted tr ∧
    ∃ x, s.future.stream = some x ∧ x.inner.state = .shutdownComplete ∧
      ∃ status, x.inner.startStatus = some status ∧ StatusApi.isOk status = true

end

/-! ## Polls of the start -/

namespace Stream

variable {R ω : Type} [WillWake ω] [StatusApi] {x : StreamInner R ω} {cx : ω}
  {failedOnBlock : Bool} {native : NativeResult}

theorem pollStart_ok
    (h : (pollStart x cx failedOnBlock native).result = .returned (.ready (.ok ()))) :
    (x.state = .startComplete ∨ x.state = .shutdownComplete) ∧
      ∀ status, x.startStatus = some status → StatusApi.isOk status = true := by
  cases hs : x.state with
  | opened => cases native <;> simp [pollStart, hs] at h
  | start => simp [pollStart, hs] at h
  | startComplete | shutdownComplete =>
    refine ⟨by simp, fun status hst => ?_⟩
    by_contra hok
    simp only [pollStart, hs, hst, if_neg hok] at h
    split at h
    · cases h
    · cases h
    · cases hc : x.connError <;> simp [expect, hc] at h
    · cases hc : x.connError <;> simp [expect, hc] at h
    · cases h

theorem pollStart_of_isOk {status : Status} (hs : x.state = .shutdownComplete)
    (hst : x.startStatus = some status) (hok : StatusApi.isOk status = true) :
    (pollStart x cx failedOnBlock native).result = .returned (.ready (.ok ())) := by
  simp only [pollStart, hs, hst, hok, if_true]

theorem pollStart_of_limit {status : Status} (hs : x.state = .shutdownComplete)
    (hst : x.startStatus = some status) (hok : ¬ StatusApi.isOk status = true)
    (hl : StatusApi.tryAsStatusCode status = some .streamLimitReached) :
    (pollStart x cx failedOnBlock native).result = .returned (.ready (.error .limitReached)) := by
  simp only [pollStart, hs, hst, if_neg hok, hl]

theorem pollStart_keeps (x : StreamInner R ω) (cx : ω) (failedOnBlock : Bool)
    (native : NativeResult) :
    (pollStart x cx failedOnBlock native).state.startStatus = x.startStatus ∧
      ((pollStart x cx failedOnBlock native).state.state = x.state ∨
        (pollStart x cx failedOnBlock native).state.state = .start) := by
  unfold pollStart
  split
  · cases native with
    | error e => exact ⟨rfl, .inl rfl⟩
    | ok _ => exact ⟨rfl, .inr rfl⟩
  · exact ⟨rfl, .inl rfl⟩
  · split
    · exact ⟨rfl, .inl rfl⟩
    · split
      · exact ⟨rfl, .inl rfl⟩
      · split <;> exact ⟨rfl, .inl rfl⟩

end Stream

/-! ## Polls of the future -/

namespace OpenSys

variable {R ω : Type}

/-- What the answer to a poll of the start says of the poll of the future. -/
theorem yields_map {o : Outcome (Poll (Except StreamStartError Unit))} {s : StreamSys R ω} :
    (OpenRes.poll (o.map fun p => p.map fun res => res.map fun _ => s)).Yields ↔
      o = .returned (.ready (.ok ())) := by
  rcases o with ((e | _) | _) | _ <;> simp [Outcome.map, Poll.map, Except.map, OpenRes.Yields]

theorem fails_map {o : Outcome (Poll (Except StreamStartError Unit))} {s : StreamSys R ω} :
    (OpenRes.poll (o.map fun p => p.map fun res => res.map fun _ => s)).Fails ↔
      ∃ e, o = .returned (.ready (.error e)) := by
  rcases o with ((e | _) | _) | _ <;> simp [Outcome.map, Poll.map, Except.map, OpenRes.Fails]

variable [WillWake ω] [StatusApi] [RangeSet R] {w : Nat} {s : OpenSys R ω} {cx : ω}
  {opened native : NativeResult}

theorem poll_gate (h : s.conn.inner.state ≠ .connected) :
    ¬ (s.step w (.poll cx opened native)).result.Yields := by
  simp only [step, OpenOutboundStream.poll, Connection.pollOpenOutboundStream,
    Connection.whenConnected]
  cases hs : s.conn.inner.state with
  | opened => exact id
  | connecting => exact id
  | connected => exact absurd hs h
  | shutdown | shutdownComplete =>
    simp only [Connection.lost]
    cases s.conn.inner.error <;> exact id

theorem poll_lost (h : s.conn.inner.state = .shutdown ∨ s.conn.inner.state = .shutdownComplete)
    (he : s.conn.inner.error ≠ none) : (s.step w (.poll cx opened native)).result.Fails := by
  obtain ⟨e, he⟩ := Option.ne_none_iff_exists'.mp he
  simp only [step, OpenOutboundStream.poll, Connection.pollOpenOutboundStream,
    Connection.whenConnected]
  rcases h with hs | hs
  · rw [hs]
    simp only [Connection.lost, he]
    trivial
  · rw [hs]
    simp only [Connection.lost, he]
    trivial

theorem poll_connected {x : StreamSys R ω} (h : s.conn.inner.state = .connected)
    (hx : s.future.stream = some x) :
    (s.step w (.poll cx opened native)).result = .poll
      ((Stream.pollStart x.inner cx s.future.failOnBlocked native).result.map fun p =>
        p.map fun res => res.map fun _ =>
          { x with
            inner := (Stream.pollStart x.inner cx s.future.failOnBlocked native).state }) := by
  simp only [step, OpenOutboundStream.poll, Connection.pollOpenOutboundStream,
    Connection.whenConnected, h, OpenOutboundStream.resume, hx]
  rfl

theorem poll_unopened (hx : s.future.stream = none) :
    ¬ (s.step w (.poll cx opened native)).result.Yields := by
  by_cases hc : s.conn.inner.state = .connected
  · simp only [step, OpenOutboundStream.poll, Connection.pollOpenOutboundStream,
      Connection.whenConnected, hc, OpenOutboundStream.resume, hx]
    cases s.future.streamType with
    | none => exact id
    | some streamType =>
      cases opened with
      | error e => exact id
      | ok _ =>
        intro hy
        have hok := (Stream.pollStart_ok (yields_map.mp hy)).1
        rcases hok with hok | hok <;> cases hok
  · exact poll_gate hc

end OpenSys

/-! ## Invariants -/

/-- A connection that has been started. -/
def ConnectionState.Started (c : ConnectionState) : Prop :=
  c = .connected ∨ c = .shutdown ∨ c = .shutdownComplete

/-- What holds after a history. -/
structure OpenInv {R ω : Type} [StatusApi] (tr : List (OpenStep R ω)) (s : OpenSys R ω) : Prop where
  /-- A lost connection has recorded why. -/
  lost : s.conn.inner.state = .shutdown ∨ s.conn.inner.state = .shutdownComplete →
    s.conn.inner.error ≠ none
  unopened : s.future.streamType ≠ none →
    s.future.stream = none ∧ ∀ e ∈ tr, ¬ e.label.IsStream
  running : s.future.stream ≠ none → s.conn.inner.state.Started
  status : ∀ x, s.future.stream = some x → (∃ e ∈ tr, e.label.IsStartComplete) →
    x.inner.startStatus ≠ none
  down : ∀ x, s.future.stream = some x → x.inner.state = .shutdownComplete →
    x.inner.startStatus ≠ none
  accepted : ∀ x, s.future.stream = some x → x.inner.state = .startComplete → StreamAccepted tr

namespace ConnectionState

variable {ω : Type}

theorem Started.next {c : ConnectionState} (h : c.Started) (l : ConnectionLabel ω) :
    (c.next l).Started := by
  unfold ConnectionState.next Started
  split
  · split
    next hop => rcases h with rfl | rfl | rfl <;> cases hop.1
    · exact h
  · split
    · exact .inr (.inl rfl)
    · exact h
  · split
    · exact .inr (.inl rfl)
    · exact h
  · exact .inl rfl
  · exact .inr (.inl rfl)
  · exact .inr (.inl rfl)
  · exact .inr (.inr rfl)
  · exact h

end ConnectionState

section

variable {R ω : Type} [WillWake ω] [StatusApi] [RangeSet R] {w : Nat} {s : OpenSys R ω}
  {tr : List (OpenStep R ω)} {ok : List (OpenStep R ω) → OpenSys R ω → OpenLabel ω → Prop}

omit [WillWake ω] [RangeSet R] in
/-- A step that is no event on the stream and opens or starts it at most. -/
theorem OpenInv.keep (h : OpenInv tr s) {l : OpenLabel ω} (hl : ¬ l.IsStream) {t : OpenSys R ω}
    (hlost : t.conn.inner.state = .shutdown ∨ t.conn.inner.state = .shutdownComplete →
      t.conn.inner.error ≠ none)
    (hrunning : t.future.stream ≠ none → t.conn.inner.state.Started)
    (hunopened : t.future.streamType ≠ none →
      s.future.streamType ≠ none ∧ t.future.stream = none)
    (hstream : ∀ y, t.future.stream = some y →
      (s.future.streamType ≠ none ∧ (y.inner.state = .opened ∨ y.inner.state = .start)) ∨
      ∃ x, s.future.stream = some x ∧ y.inner.startStatus = x.inner.startStatus ∧
        (y.inner.state = x.inner.state ∨ y.inner.state = .start))
    {e : OpenStep R ω} (he : e.label = l) : OpenInv (e :: tr) t := by
  rw [← he] at hl
  have hstarted (hsc : ∃ e' ∈ e :: tr, e'.label.IsStartComplete) :
      ∃ e' ∈ tr, e'.label.IsStartComplete := by
    obtain ⟨e', he', hsc⟩ := hsc
    rcases List.mem_cons.mp he' with rfl | he'
    · exact absurd hsc.isStream hl
    · exact ⟨e', he', hsc⟩
  constructor
  · exact hlost
  · intro hne
    obtain ⟨hty, hnone⟩ := hunopened hne
    exact ⟨hnone, List.forall_mem_cons.mpr ⟨hl, (h.unopened hty).2⟩⟩
  · exact hrunning
  · intro y hy hsc
    obtain ⟨e', he', hsc⟩ := hstarted hsc
    rcases hstream y hy with ⟨hty, -⟩ | ⟨x, hx, hst, -⟩
    · exact absurd hsc.isStream ((h.unopened hty).2 e' he')
    · rw [hst]
      exact h.status x hx ⟨e', he', hsc⟩
  · intro y hy hs
    rcases hstream y hy with ⟨-, hy | hy⟩ | ⟨x, hx, hst, hy | hy⟩
    · rw [hy] at hs
      cases hs
    · rw [hy] at hs
      cases hs
    · rw [hst]
      exact h.down x hx (hy.symm.trans hs)
    · rw [hy] at hs
      cases hs
  · intro y hy hs
    rcases hstream y hy with ⟨-, hy | hy⟩ | ⟨x, hx, hst, hy | hy⟩
    · rw [hy] at hs
      cases hs
    · rw [hy] at hs
      cases hs
    · exact List.exists_mem_cons_of_exists (h.accepted x hx (hy.symm.trans hs))
    · rw [hy] at hs
      cases hs

omit [WillWake ω] in
theorem StreamSys.event_startStatus (x : StreamSys R ω) (ev : MsquicStreamEvent) :
    (x.dispatchEvent w ev).state.inner.startStatus ≠ none ∨
      ((x.dispatchEvent w ev).state.inner.startStatus = x.inner.startStatus ∧
        ¬ (OpenLabel.stream ev : OpenLabel ω).IsStartComplete) := by
  cases ev with
  | startComplete status id peerAccepted =>
    left
    simp only [dispatchEvent, after_inner, Stream.handleEventStartComplete]
    split
    · split <;> exact Option.some_ne_none _
    · split <;> exact Option.some_ne_none _
  | sendComplete canceled clientContext =>
    right
    simp only [dispatchEvent]
    split <;> exact ⟨rfl, id⟩
  | shutdownComplete cs ac ba cr ec st =>
    right
    refine ⟨?_, id⟩
    by_cases hs : x.inner.state = .shutdownComplete
    · simp only [dispatchEvent, after_inner, Stream.handleEventShutdownComplete_again hs]
    · obtain ⟨map, cursor, hy⟩ :=
        Stream.handleEventShutdownComplete_frame (w := w) hs cs ac ba cr ec st
      simp only [dispatchEvent, after_inner, hy]
      rfl
  | _ => exact .inr ⟨rfl, id⟩

omit [WillWake ω] in
theorem OpenInv.stream (h : OpenInv tr s) {ev : MsquicStreamEvent} {e : OpenStep R ω}
    (he : e.label = .stream ev) (hok : OpenOrder tr s e.label) {x : StreamSys R ω}
    (hx : s.future.stream = some x) :
    OpenInv (e :: tr)
      { s with future := { s.future with stream := some (x.dispatchEvent w ev).state } } := by
  have hstatus := StreamSys.event_startStatus (w := w) x ev
  have hstep := (StreamSys.event_sendStep (w := w) (s := x) ev).of_event
  constructor
  · exact h.lost
  · intro hne
    have hnone := (h.unopened hne).1
    rw [hx] at hnone
    cases hnone
  · exact fun _ => h.running (by rw [hx]; exact Option.some_ne_none _)
  · intro y hy hsc
    obtain rfl := Option.some.inj hy
    rcases hstatus with hst | ⟨hst, hnsc⟩
    · exact hst
    · obtain ⟨e', he', hsc⟩ := hsc
      rcases List.mem_cons.mp he' with rfl | he'
      · rw [he] at hsc
        exact absurd hsc hnsc
      · rw [hst]
        exact h.status x hx ⟨e', he', hsc⟩
  · intro y hy hs
    obtain rfl := Option.some.inj hy
    rcases hstatus with hst | ⟨hst, -⟩
    · exact hst
    · rw [hst]
      rcases hstep with heq | ⟨heq, -⟩ | ⟨-, hsc⟩
      · exact h.down x hx (heq.symm.trans hs)
      · rw [heq] at hs
        cases hs
      · refine h.status x hx (hok.startFirst ?_)
        rw [he]
        cases ev with
        | shutdownComplete => exact trivial
        | peerAccepted => exact hsc.elim
        | _ => exact hsc
  · intro y hy hs
    obtain rfl := Option.some.inj hy
    rcases hstep with heq | ⟨-, ha⟩ | ⟨heq, -⟩
    · exact List.exists_mem_cons_of_exists (h.accepted x hx (heq.symm.trans hs))
    · refine ⟨e, List.mem_cons_self, ?_⟩
      rw [he]
      exact ha
    · rw [heq] at hs
      cases hs

theorem OpenSys.poll_conn (cx : ω) (opened native : NativeResult) :
    (s.step w (.poll cx opened native)).state.conn.inner.lifecycle = s.conn.inner.lifecycle := by
  simp only [step, OpenOutboundStream.poll, Connection.pollOpenOutboundStream,
    Connection.whenConnected]
  cases hs : s.conn.inner.state with
  | opened | connecting => rfl
  | connected => rfl
  | shutdown | shutdownComplete =>
    simp only [Connection.lost]
    cases s.conn.inner.error <;> rfl

theorem OpenSys.poll_future (cx : ω) (opened native : NativeResult) :
    (s.step w (.poll cx opened native)).state.future = s.future ∨
      (s.conn.inner.state = .connected ∧
        ((∃ x, s.future.stream = some x ∧
          (s.step w (.poll cx opened native)).state.future =
            (s.future.startStream x cx native).state) ∨
        (s.future.stream = none ∧ s.future.streamType ≠ none ∧
          (s.step w (.poll cx opened native)).state.future.streamType = none ∧
          ((s.step w (.poll cx opened native)).state.future.stream = none ∨
            ∃ t, (s.step w (.poll cx opened native)).state.future =
              (OpenOutboundStream.startStream { s.future with streamType := none }
                { inner := .opened t } cx native).state)))) := by
  simp only [step, OpenOutboundStream.poll, Connection.pollOpenOutboundStream,
    Connection.whenConnected]
  cases hs : s.conn.inner.state with
  | opened | connecting => exact .inl rfl
  | shutdown | shutdownComplete =>
    simp only [Connection.lost]
    cases s.conn.inner.error <;> exact .inl rfl
  | connected =>
    simp only [OpenOutboundStream.resume]
    cases hx : s.future.stream with
    | some x => exact .inr ⟨trivial, .inl ⟨x, rfl, rfl⟩⟩
    | none =>
      cases ht : s.future.streamType with
      | none => exact .inl rfl
      | some t =>
        refine .inr ⟨trivial, .inr ⟨rfl, Option.some_ne_none _, ?_⟩⟩
        cases opened with
        | error e => exact ⟨rfl, .inl rfl⟩
        | ok _ => exact ⟨rfl, .inr ⟨t, rfl⟩⟩

omit [RangeSet R] in
theorem OpenOutboundStream.startStream_stream {f : OpenOutboundStream R ω} {x y : StreamSys R ω}
    {cx : ω} {native : NativeResult} (h : (f.startStream x cx native).state.stream = some y) :
    y.inner.startStatus = x.inner.startStatus ∧
      (y.inner.state = x.inner.state ∨ y.inner.state = .start) := by
  have hk := Stream.pollStart_keeps x.inner cx f.failOnBlocked native
  simp only [startStream] at h
  split at h
  · cases h
  · obtain rfl := Option.some.inj h
    exact hk

theorem OpenInv.poll (h : OpenInv tr s) {e : OpenStep R ω} {cx : ω} {opened native : NativeResult}
    (he : e.label = .poll cx opened native) :
    OpenInv (e :: tr) (s.step w (.poll cx opened native)).state := by
  have hlife := OpenSys.poll_conn (w := w) (s := s) cx opened native
  have hstate := congrArg Prod.fst hlife
  have herror := congrArg Prod.snd hlife
  simp only [ConnectionInnerExclusive.lifecycle] at hstate herror
  have hfuture := OpenSys.poll_future (w := w) (s := s) cx opened native
  refine h.keep id ?_ ?_ ?_ ?_ he
  · rw [hstate, herror]
    exact h.lost
  · rw [hstate]
    intro hne
    rcases hfuture with hf | ⟨hc, -⟩
    · rw [hf] at hne
      exact h.running hne
    · exact .inl hc
  · intro hne
    rcases hfuture with hf | ⟨-, ⟨x, hx, hf⟩ | ⟨-, -, ht, -⟩⟩
    · rw [hf] at hne ⊢
      exact ⟨hne, (h.unopened hne).1⟩
    · rw [hf] at hne
      have hnone := (h.unopened hne).1
      rw [hx] at hnone
      cases hnone
    · exact absurd ht hne
  · intro y hy
    rcases hfuture with hf | ⟨-, ⟨x, hx, hf⟩ | ⟨-, ht, -, hf | ⟨t, hf⟩⟩⟩
    · rw [hf] at hy
      exact .inr ⟨y, hy, rfl, .inl rfl⟩
    · rw [hf] at hy
      exact .inr ⟨x, hx, OpenOutboundStream.startStream_stream hy⟩
    · rw [hf] at hy
      cases hy
    · rw [hf] at hy
      exact .inl ⟨ht, (OpenOutboundStream.startStream_stream hy).2⟩

theorem OpenInv.conn (h : OpenInv tr s) {e : OpenStep R ω} {l : ConnectionLabel ω}
    (he : e.label = .conn l) : OpenInv (e :: tr) (s.step w (.conn l)).state := by
  have hstate : (s.step w (.conn l)).state.conn.inner.state = s.conn.inner.state.next l :=
    s.conn.step_state l
  have herror : (s.step w (.conn l)).state.conn.inner.error =
      s.conn.inner.state.nextError s.conn.inner.error l := s.conn.step_error l
  refine h.keep (t := (s.step w (.conn l)).state) id ?_ ?_ (fun hne => ⟨hne, (h.unopened hne).1⟩)
    (fun y hy => .inr ⟨y, hy, rfl, .inl rfl⟩) he
  · rw [hstate, herror]
    exact ConnectionState.nextError_ne_none h.lost l
  · rw [hstate]
    exact fun hne => (h.running hne).next l

omit [WillWake ω] [RangeSet R] in
theorem openInv_init (h : OpenSys.Init s) : OpenInv [] s := by
  cases h with
  | @«open» conn hc streamType failOnBlocked =>
    refine ⟨fun hs => ?_, fun _ => ⟨rfl, List.forall_mem_nil _⟩, fun hne => absurd rfl hne,
      (fun x hx => by cases hx), (fun x hx => by cases hx), (fun x hx => by cases hx)⟩
    cases hc with
    | new => rcases hs with hs | hs <;> cases hs
    | fromRaw => rcases hs with hs | hs <;> cases hs

theorem run_openInv (h : (openSystem w OpenOrder).Run tr s) : OpenInv tr s :=
  h.invariant (fun _ => openInv_init) fun tr s l _ hok hi => by
    cases l with
    | conn l => exact hi.conn (w := w) rfl
    | poll cx opened native => exact hi.poll (w := w) rfl
    | stream ev =>
      obtain ⟨x, hx⟩ := Option.ne_none_iff_exists'.mp (hok.target trivial)
      have hstep : ((openSystem w OpenOrder).next s (.stream ev)).1 =
          { s with
            future := { s.future with stream := some (x.dispatchEvent w ev).state } } := by
        simp only [openSystem, OpenSys.step, hx]
      rw [hstep]
      exact hi.stream (e := (openSystem w OpenOrder).take s (.stream ev)) rfl hok hx

/-! ## Sound polls -/

theorem OpenSys.DeadPoll.yields {l : OpenLabel ω} (h : OpenSys.DeadPoll tr s l) :
    (s.step w l).result.Yields := by
  obtain ⟨hl, hc, -, x, hx, hs, status, hst, hok⟩ := h
  cases l with
  | poll cx opened native =>
    rw [poll_connected hc hx]
    exact yields_map.mpr (Stream.pollStart_of_isOk hs hst hok)
  | _ => exact hl.elim

theorem OpenInv.yields (h : OpenInv tr s) {l : OpenLabel ω} (hd : ¬ OpenSys.DeadPoll tr s l)
    (hy : (s.step w l).result.Yields) : StreamAccepted tr := by
  cases l with
  | conn l => exact hy.elim
  | stream ev =>
    simp only [OpenSys.step] at hy
    split at hy <;> exact hy.elim
  | poll cx opened native =>
    have hc : s.conn.inner.state = .connected := by
      by_contra hc
      exact OpenSys.poll_gate hc hy
    cases hx : s.future.stream with
    | none => exact absurd hy (OpenSys.poll_unopened hx)
    | some x =>
      rw [OpenSys.poll_connected hc hx] at hy
      obtain ⟨hs | hs, hok⟩ := Stream.pollStart_ok (OpenSys.yields_map.mp hy)
      · exact h.accepted x hx hs
      · -- torn down: the start status says that it started, nothing that it was accepted
        obtain ⟨status, hst⟩ := Option.ne_none_iff_exists'.mp (h.down x hx hs)
        by_contra hna
        exact hd ⟨trivial, hc, hna, x, hx, hs, status, hst, hok status hst⟩

theorem OpenInv.fails (h : OpenInv tr s) {l : OpenLabel ω} (hd : ¬ OpenSys.DeadPoll tr s l)
    (hl : l.IsPoll) (hna : ¬ StreamAccepted tr) (ht : s.TornDown) :
    (s.step w l).result.Fails := by
  obtain ⟨x, hx, hs, status, hst, hb⟩ := ht
  cases l with
  | poll cx opened native =>
    rcases h.running (by rw [hx]; exact Option.some_ne_none x) with hc | hc
    · have hok : ¬ StatusApi.isOk status = true :=
        fun hok => hd ⟨trivial, hc, hna, x, hx, hs, status, hst, hok⟩
      rw [OpenSys.poll_connected hc hx]
      exact OpenSys.fails_map.mpr
        ⟨_, Stream.pollStart_of_limit hs hst hok (hb.resolve_left hok)⟩
    · exact OpenSys.poll_lost hc (h.lost hc)
  | _ => exact hl.elim

/-- **An opened stream is an accepted stream**, in every run, exactly when no poll is dead. -/
theorem open_sound_iff (h : (openSystem w OpenOrder).Run tr s) :
    (∀ e tr', e :: tr' <:+ tr → OpenSound tr' e) ↔
      ∀ e tr', e :: tr' <:+ tr → ¬ OpenSys.DeadPoll tr' e.pre e.label := by
  constructor
  · intro hsound e tr' hsuf hd
    obtain ⟨-, -, he⟩ := h.of_suffix hsuf
    refine hd.2.2.1 ((hsound e tr' hsuf).accepted ?_)
    rw [he]
    exact hd.yields
  · intro hlive e tr' hsuf
    obtain ⟨hr, -, he⟩ := h.of_suffix hsuf
    have hd := hlive e tr' hsuf
    have hi := run_openInv hr
    constructor
    · intro hy
      rw [he] at hy
      exact hi.yields hd hy
    · intro hl hna ht
      rw [he]
      exact hi.fails hd hl hna ht

end

/-- A start that waits for the peer yields its stream after the acceptance. -/
theorem open_sound_accepted :
    ∃ (tr : List (OpenStep Coalesced Nat)) (s : OpenSys Coalesced Nat),
      (openSystem 64 OpenOrder).Run tr s ∧
      tr.map Step.label =
        [.poll 7 (.ok ()) (.ok ()), .stream .peerAccepted, .stream (.startComplete 0 4 false),
          .poll 7 (.ok ()) (.ok ())] ∧
      (∃ e ∈ tr, e.out.result.Yields) ∧ ∀ e tr', e :: tr' <:+ tr → OpenSound tr' e := by
  have h0 := System.Run.start (S := openSystem (R := Coalesced) (ω := Nat) 64 OpenOrder)
    (.open (.fromRaw none none) .bidirectional false)
  have h1 := h0.step (.poll 7 (.ok ()) (.ok ())) ⟨False.elim, False.elim⟩
  have h2 := h1.step (.stream (.startComplete 0 4 false))
    ⟨fun _ => Option.some_ne_none _, False.elim⟩
  have h3 := h2.step (.stream .peerAccepted)
    ⟨fun _ => Option.some_ne_none _, fun _ => ⟨_, List.mem_cons_self, trivial⟩⟩
  have h4 := h3.step (.poll 7 (.ok ()) (.ok ())) ⟨False.elim, False.elim⟩
  refine ⟨_, _, h4, rfl, ⟨_, List.mem_cons_self, trivial⟩, (open_sound_iff h4).mpr ?_⟩
  simp only [forall_suffix_cons]
  refine ⟨fun hd => ?_, fun hd => hd.1, fun hd => hd.1, fun hd => ?_, forall_suffix_nil⟩
  · exact hd.2.2.1 ⟨_, List.mem_cons_self, trivial⟩
  · obtain ⟨-, -, -, x, hx, -⟩ := hd
    cases hx

/-- A start waits for the peer, the stream is torn down while its connection is still
connected, and the next poll yields it. -/
theorem open_yields_dead_stream :
    ∃ (tr : List (OpenStep Coalesced Nat)) (s : OpenSys Coalesced Nat),
      (openSystem 64 OpenOrder).Run tr s ∧
      tr.map Step.label =
        [.poll 7 (.ok ()) (.ok ()), .stream (.shutdownComplete true false false true 0 0),
          .stream (.startComplete 0 4 false), .poll 7 (.ok ()) (.ok ())] ∧
      (∃ e tr', e :: tr' <:+ tr ∧ e.out.result.Yields ∧ e.pre.TornDown) ∧
      ¬ StreamAccepted tr := by
  have h0 := System.Run.start (S := openSystem (R := Coalesced) (ω := Nat) 64 OpenOrder)
    (.open (.fromRaw none none) .bidirectional false)
  have h1 := h0.step (.poll 7 (.ok ()) (.ok ())) ⟨False.elim, False.elim⟩
  have h2 := h1.step (.stream (.startComplete 0 4 false))
    ⟨fun _ => Option.some_ne_none _, False.elim⟩
  have h3 := h2.step (.stream (.shutdownComplete true false false true 0 0))
    ⟨fun _ => Option.some_ne_none _, fun _ => ⟨_, List.mem_cons_self, trivial⟩⟩
  have h4 := h3.step (.poll 7 (.ok ()) (.ok ())) ⟨False.elim, False.elim⟩
  refine ⟨_, _, h4, rfl, ⟨_, _, List.suffix_refl _, trivial, ?_⟩, ?_⟩
  · exact ⟨_, rfl, rfl, 0, rfl, .inl (by decide)⟩
  · rintro ⟨e, he, ha⟩
    simp only [List.mem_cons, List.not_mem_nil, or_false] at he
    rcases he with rfl | rfl | rfl | rfl
    · exact ha
    · exact ha
    · cases ha.2
    · exact ha

end MsquicAsync
