import MsquicAsync.Stream.SendCalls

/-!
# Nobody sleeps on a start or a finish that is over

Whoever waits for a stream to start waits in `start_waiters`, and only while the
stream is starting. The list of those who wait for the send side to end is
drained by two of the three events that end it; the third is ShutdownComplete,
and MsQuic reports SendShutdownComplete before it where there was something to
wait for (`AcceptOrder`).
-/

namespace MsquicAsync

open Runs Ranges

variable {R ω : Type}

/-- The send side was finished or aborted, and MsQuic has not reported it since. -/
def FinishPending : List (StreamStep R ω) → Prop
  | [] => False
  | e :: tr =>
    .last ∈ sendCalls e.out.calls ∨ (FinishPending tr ∧ ¬ e.label.IsSendShutdownComplete)

/-- MsQuic's order of events: acceptance is indicated at most once, and SendShutdownComplete
comes before ShutdownComplete where the send side was finished or aborted. -/
structure AcceptOrder [StatusApi] (tr : List (StreamStep R ω)) (s : StreamSys R ω)
    (l : StreamLabel ω) : Prop where
  accepts : l.Accepts → ¬ Accepted tr s
  shutdown : l.IsShutdownComplete → ¬ FinishPending tr

/-- Whoever waits for a start, or for the send side to end, would be pending again. -/
structure StreamInner.NoLostWaiter [WillWake ω] [StatusApi] (x : StreamInner R ω) : Prop where
  start : x.startWaiters ≠ [] → ∀ cx failedOnBlock native,
    (Stream.pollStart x cx failedOnBlock native).result = .returned .pending
  finish : x.writeShutdownWaiters ≠ [] → ∀ cx native,
    (Stream.pollFinishWrite x cx native).result = .pending
  abort : x.writeShutdownWaiters ≠ [] → ∀ cx errorCode native,
    (Stream.pollAbortWrite x cx errorCode native).result = .pending

/-- Who waits, and for what, after a history. -/
structure StreamSleepers [StatusApi] (tr : List (StreamStep R ω)) (s : StreamSys R ω) : Prop where
  start : s.inner.startWaiters ≠ [] → s.inner.state = .start
  send : s.inner.sendState = .start → s.inner.state = .start
  recv : s.inner.recvState = .start → s.inner.state = .start ∧ s.inner.streamType = .bidirectional
  shutdown : s.inner.writeShutdownWaiters ≠ [] →
    (s.inner.sendState = .shutdown ∨ s.inner.sendState = .start) ∧ FinishPending tr
  pending : s.inner.sendState = .shutdown → FinishPending tr
  /-- Before acceptance the send side is neither open nor closing. -/
  unaccepted : ¬ Accepted tr s → s.inner.writeShutdownWaiters = [] ∧
    s.inner.sendState ≠ .startComplete ∧ s.inner.sendState ≠ .shutdown

theorem StreamSleepers.noLostWaiter [WillWake ω] [StatusApi] {tr : List (StreamStep R ω)}
    {s : StreamSys R ω} (h : StreamSleepers tr s) : s.inner.NoLostWaiter := by
  have hsend {flags : StreamShutdownFlags} {errorCode : UInt64} {native : NativeResult}
      {done : Except WriteError Unit} (hne : s.inner.writeShutdownWaiters ≠ []) (cx : ω) :
      (Stream.shutdownSend s.inner cx flags errorCode native done).result = .pending := by
    obtain ⟨hs | hs, -⟩ := h.shutdown hne
    · simp only [Stream.shutdownSend, hs]
    · simp only [Stream.shutdownSend, hs]
  constructor
  · intro hne cx failedOnBlock native
    simp only [Stream.pollStart, h.start hne]
  · exact fun hne cx native => hsend hne cx
  · exact fun hne cx errorCode native => hsend hne cx

/-! ## Calls -/

/-- What a call does to those who wait. -/
structure CallWaits (x y : StreamInner R ω) : Prop where
  start : y.startWaiters = x.startWaiters ∨ x.sendState = .start ∨ x.recvState = .start ∨
    y.state = .start
  recv : y.recvState = .start →
    x.recvState = .start ∨ (y.state = .start ∧ x.streamType = .bidirectional)
  shutdown : y.writeShutdownWaiters = x.writeShutdownWaiters ∨ y.sendState = .shutdown

namespace Stream

variable [WillWake ω] {x : StreamInner R ω}

theorem callWaits_pollReadGeneric {α : Type} (cx : ω) (readFn : List StreamRecvBuffer → ReadFn α) :
    CallWaits x (pollReadGeneric x cx readFn).state := by
  unfold pollReadGeneric
  split
  case h_2 h => exact ⟨.inr (.inr (.inl h)), .inl, .inl rfl⟩
  case h_3 h =>
    simp only
    split
    case h_3 => exact ⟨.inl rfl, (fun hr => by cases hr), .inl rfl⟩
    all_goals exact ⟨.inl rfl, .inl, .inl rfl⟩
  all_goals exact ⟨.inl rfl, .inl, .inl rfl⟩

theorem callWaits_pollStart [StatusApi] (cx : ω) (failedOnBlock : Bool) (native : NativeResult) :
    CallWaits x (pollStart x cx failedOnBlock native).state := by
  unfold pollStart
  split
  · cases native with
    | error e => exact ⟨.inl rfl, .inl, .inl rfl⟩
    | ok _ =>
      refine ⟨.inr (.inr (.inr rfl)), fun hr => ?_, .inl rfl⟩
      by_cases hb : x.streamType = .bidirectional
      · exact .inr ⟨rfl, hb⟩
      · exact .inl ((if_neg hb).symm.trans hr)
  next hs => exact ⟨.inr (.inr (.inr hs)), .inl, .inl rfl⟩
  · cases x.startStatus with
    | none => exact ⟨.inl rfl, .inl, .inl rfl⟩
    | some startStatus =>
      simp only
      split
      · exact ⟨.inl rfl, .inl, .inl rfl⟩
      · split <;> exact ⟨.inl rfl, .inl, .inl rfl⟩

theorem callWaits_pollAbortRead (cx : ω) (errorCode : UInt64) (native : NativeResult) :
    CallWaits x (pollAbortRead x cx errorCode native).state := by
  unfold pollAbortRead
  split
  case h_1 h => exact ⟨.inr (.inr (.inl h)), .inl, .inl rfl⟩
  case h_2 =>
    cases native with
    | ok _ => exact ⟨.inl rfl, (fun hr => by cases hr), .inl rfl⟩
    | error _ => exact ⟨.inl rfl, .inl, .inl rfl⟩
  case h_3 =>
    cases x.connError with
    | some => exact ⟨.inl rfl, .inl, .inl rfl⟩
    | none => cases x.recvErrorCode <;> exact ⟨.inl rfl, .inl, .inl rfl⟩
  case h_4 => exact ⟨.inl rfl, .inl, .inl rfl⟩

omit [WillWake ω] in
theorem callWaits_abortRead (errorCode : UInt64) (native : NativeResult) :
    CallWaits x (abortRead x errorCode native).state := by
  unfold abortRead
  split
  · cases native with
    | ok _ => exact ⟨.inl rfl, (fun hr => by cases hr), .inl rfl⟩
    | error _ => exact ⟨.inl rfl, .inl, .inl rfl⟩
  · exact ⟨.inl rfl, .inl, .inl rfl⟩

end Stream

section

variable [RangeSet R] [WillWake ω] [StatusApi] {w : Nat} {s : StreamSys R ω}

theorem StreamSys.callWaits (op : StreamOp ω) : CallWaits s.inner (s.call w op).state.inner := by
  rcases op.group with hop | hop | hop | ⟨cx, failedOnBlock, native, rfl⟩ |
    ⟨cx, errorCode, native, rfl⟩ | ⟨errorCode, native, rfl⟩
  · cases op with
    | pollRead cx len => exact Stream.callWaits_pollReadGeneric cx _
    | pollReadBuf cx remaining =>
      simp only [call, Stream.pollReadBuf]
      split
      · exact ⟨.inl rfl, .inl, .inl rfl⟩
      · exact Stream.callWaits_pollReadGeneric cx _
    | pollReadChunk cx => exact Stream.callWaits_pollReadGeneric cx _
    | _ => exact hop.elim
  · have hm := call_writeMove (w := w) (s := s) hop
    obtain ⟨_, _, _, _, hy⟩ := (call_write (w := w) (s := s) hop).1.frame
    refine ⟨?_, fun hr => .inl ?_, hm.shutdownWaiters⟩
    · exact hm.startWaiters.imp id .inl
    · rw [hy] at hr
      exact hr
  · obtain ⟨map, cursor, hy⟩ := call_held (w := w) (s := s) hop
    rw [hy]
    exact ⟨.inl rfl, .inl, .inl rfl⟩
  · exact Stream.callWaits_pollStart cx failedOnBlock native
  · exact Stream.callWaits_pollAbortRead cx errorCode native
  · exact Stream.callWaits_abortRead errorCode native

variable {ok : StreamContract R ω} {tr : List (StreamStep R ω)}

theorem StreamSleepers.call (h : StreamSleepers tr s) (op : StreamOp ω) :
    StreamSleepers ((streamSystem w ok).take s (.call op) :: tr) (s.call w op).state := by
  have hstep := (StreamSys.step_send (w := w) (s := s) (.call op)).of_call
  have hw := StreamSys.callWaits (w := w) (s := s) op
  have hacc := accepted_step (w := w) (s := s) ok tr (.call op)
  have htype := (StreamSys.step_shared (w := w) (s := s) (.call op)).2.1
  rw [or_iff_right (fun h : (StreamLabel.call op).Accepts => h.elim)] at hacc
  simp only [StreamSys.step] at hstep htype
  have hpend : FinishPending tr → FinishPending ((streamSystem w ok).take s (.call op) :: tr) :=
    fun hp => .inr ⟨hp, id⟩
  have hstart : s.inner.state = .start → (s.call w op).state.inner.state = .start := by
    intro hs
    rcases hstep with ⟨ha, -⟩ | ⟨ha, -⟩ | ⟨ha, -⟩
    · rw [ha, hs]
    · exact ha
    · rw [ha, hs]
  have hpending : (s.call w op).state.inner.sendState = .shutdown →
      FinishPending ((streamSystem w ok).take s (.call op) :: tr) := by
    intro hs
    rcases hstep with ⟨-, hb⟩ | ⟨-, hb⟩ | ⟨-, -, -, hc⟩
    · exact hpend (h.pending (hb.symm.trans hs))
    · rw [hb] at hs
      cases hs
    · exact .inl hc
  refine ⟨fun hne => ?_, fun hs => ?_, fun hr => ?_, fun hne => ?_, hpending, fun hna => ?_⟩
  · rcases hw.start with heq | hs | hr | hs
    · rw [heq] at hne
      exact hstart (h.start hne)
    · exact hstart (h.send hs)
    · exact hstart (h.recv hr).1
    · exact hs
  · rcases hstep with ⟨-, hb⟩ | ⟨ha, -⟩ | ⟨-, -, hb, -⟩
    · exact hstart (h.send (hb.symm.trans hs))
    · exact ha
    · rw [hb] at hs
      cases hs
  · rw [htype]
    rcases hw.recv hr with hr | hr
    · exact ⟨hstart (h.recv hr).1, (h.recv hr).2⟩
    · exact hr
  · rcases hw.shutdown with heq | hs
    · rw [heq] at hne
      obtain ⟨hs, hp⟩ := h.shutdown hne
      refine ⟨?_, hpend hp⟩
      rcases hstep with ⟨-, hb⟩ | ⟨-, hb⟩ | ⟨-, -, hb, -⟩
      · rwa [hb]
      · exact .inr hb
      · exact .inl hb
    · exact ⟨.inl hs, hpending hs⟩
  · obtain ⟨hnil, hopen, hdown⟩ := h.unaccepted (fun ha => hna (hacc.mpr ha))
    have hs : (s.call w op).state.inner.sendState ≠ .startComplete ∧
        (s.call w op).state.inner.sendState ≠ .shutdown := by
      rcases hstep with ⟨-, hb⟩ | ⟨-, hb⟩ | ⟨-, hx, -, -⟩
      · rw [hb]
        exact ⟨hopen, hdown⟩
      · rw [hb]
        exact ⟨(fun h => by cases h), (fun h => by cases h)⟩
      · exact absurd hx hopen
    refine ⟨?_, hs⟩
    rcases hw.shutdown with heq | hsd
    · rw [heq, hnil]
    · exact absurd hsd hs.2

/-! ## Events -/

/-- An event that leaves the states alone keeps who waits for what, if no list but the start
list has changed. -/
theorem StreamSleepers.quiet (h : StreamSleepers tr s) {ev : MsquicStreamEvent}
    (ha : ¬ (StreamLabel.event ev : StreamLabel ω).Accepts)
    (hs : ¬ (StreamLabel.event ev : StreamLabel ω).IsSendShutdownComplete)
    (hstart : (s.dispatchEvent w ev).state.inner.startWaiters = s.inner.startWaiters ∨
      (s.dispatchEvent w ev).state.inner.startWaiters = [])
    (hrecv : (s.dispatchEvent w ev).state.inner.recvState = s.inner.recvState ∨
      (s.dispatchEvent w ev).state.inner.recvState = .shutdownComplete)
    (hstate : (s.dispatchEvent w ev).state.inner.state = s.inner.state)
    (hsend : (s.dispatchEvent w ev).state.inner.sendState = s.inner.sendState)
    (hshut : (s.dispatchEvent w ev).state.inner.writeShutdownWaiters =
      s.inner.writeShutdownWaiters) :
    StreamSleepers ((streamSystem w ok).take s (.event ev) :: tr) (s.dispatchEvent w ev).state := by
  have hacc := accepted_step (w := w) (s := s) ok tr (.event ev)
  have htype := (StreamSys.step_shared (w := w) (s := s) (.event ev)).2.1
  rw [or_iff_right ha] at hacc
  simp only [StreamSys.step] at htype
  have hpend : FinishPending tr → FinishPending ((streamSystem w ok).take s (.event ev) :: tr) :=
    fun hp => .inr ⟨hp, hs⟩
  constructor
  · intro hne
    rw [hstate]
    rcases hstart with hstart | hstart
    · exact h.start (hstart ▸ hne)
    · exact absurd hstart hne
  · rw [hstate, hsend]
    exact h.send
  · intro hr
    rw [hstate, htype]
    rcases hrecv with hrecv | hrecv
    · exact h.recv (hrecv.symm.trans hr)
    · rw [hrecv] at hr
      cases hr
  · rw [hshut, hsend]
    exact fun hne => (h.shutdown hne).imp id hpend
  · rw [hsend]
    exact fun hs => hpend (h.pending hs)
  · rw [hshut, hsend]
    exact fun hna => h.unaccepted (fun ha => hna (hacc.mpr ha))

theorem StreamSleepers.accepted (h : StreamSleepers tr s) {ev : MsquicStreamEvent}
    (ha : (StreamLabel.event ev : StreamLabel ω).Accepts) (hna : ¬ Accepted tr s)
    (hstart : (s.dispatchEvent w ev).state.inner.startWaiters = [])
    (hrecv : (s.dispatchEvent w ev).state.inner.recvState = Stream.startedRecvState s.inner)
    (hsend : (s.dispatchEvent w ev).state.inner.sendState = .startComplete)
    (hshut : (s.dispatchEvent w ev).state.inner.writeShutdownWaiters =
      s.inner.writeShutdownWaiters) :
    StreamSleepers ((streamSystem w ok).take s (.event ev) :: tr) (s.dispatchEvent w ev).state := by
  have hnil := (h.unaccepted hna).1
  constructor
  · exact fun hne => absurd hstart hne
  · rw [hsend]
    exact fun hs => by cases hs
  · rw [hrecv]
    intro hr
    unfold Stream.startedRecvState at hr
    split at hr
    · cases hr
    next hb => exact absurd (h.recv hr).2 hb
  · rw [hshut]
    exact fun hne => absurd hnil hne
  · rw [hsend]
    exact fun hs => by cases hs
  · exact fun hna' => absurd ((accepted_step ok tr _).mpr (.inl ha)) hna'

theorem streamSleepers_ended {ev : MsquicStreamEvent}
    (hstart : (s.dispatchEvent w ev).state.inner.startWaiters ≠ [] →
      (s.dispatchEvent w ev).state.inner.state = .start)
    (hrecv : (s.dispatchEvent w ev).state.inner.recvState = .start →
      (s.dispatchEvent w ev).state.inner.state = .start ∧ s.inner.streamType = .bidirectional)
    (hsend : (s.dispatchEvent w ev).state.inner.sendState = .shutdownComplete)
    (hshut : (s.dispatchEvent w ev).state.inner.writeShutdownWaiters = []) :
    StreamSleepers ((streamSystem w ok).take s (.event ev) :: tr) (s.dispatchEvent w ev).state := by
  have htype := (StreamSys.step_shared (w := w) (s := s) (.event ev)).2.1
  simp only [StreamSys.step] at htype
  constructor
  · exact hstart
  · rw [hsend]
    exact fun hs => by cases hs
  · rw [htype]
    exact hrecv
  · exact fun hne => absurd hshut hne
  · rw [hsend]
    exact fun hs => by cases hs
  · rw [hsend]
    exact fun _ => ⟨hshut, (fun hs => by cases hs), (fun hs => by cases hs)⟩

theorem StreamSleepers.event (h : StreamSleepers tr s) {ev : MsquicStreamEvent}
    (hok : AcceptOrder tr s (.event ev)) :
    StreamSleepers ((streamSystem w ok).take s (.event ev) :: tr) (s.dispatchEvent w ev).state := by
  cases ev with
  | startComplete status streamId peerAccepted =>
    by_cases ha : StatusApi.isOk status = true ∧ peerAccepted = true
    · have hstate : (s.dispatchEvent w (.startComplete status streamId peerAccepted)).state.inner =
          { s.inner with
            id := some streamId
            startStatus := some status
            state := .startComplete
            recvState := Stream.startedRecvState s.inner
            sendState := .startComplete
            startWaiters := [] } := by
        simp only [StreamSys.dispatchEvent, StreamSys.after_inner, Stream.handleEventStartComplete,
          ha, and_self, if_true, or_true]
        rfl
      exact h.accepted ha (hok.accepts ha) (by rw [hstate]) (by rw [hstate]) (by rw [hstate])
        (by rw [hstate])
    · have hstate : ∃ startId startWaiters,
          (s.dispatchEvent w (.startComplete status streamId peerAccepted)).state.inner =
            { s.inner with
              id := startId
              startStatus := some status
              startWaiters := startWaiters } ∧
          (startWaiters = s.inner.startWaiters ∨ startWaiters = []) := by
        simp only [StreamSys.dispatchEvent, StreamSys.after_inner, Stream.handleEventStartComplete]
        rw [if_neg ha]
        split
        · exact ⟨_, _, rfl, .inr rfl⟩
        · exact ⟨_, _, rfl, .inl rfl⟩
      obtain ⟨startId, startWaiters, hstate, hw⟩ := hstate
      refine h.quiet ha id ?_ (.inl ?_) ?_ ?_ ?_
      · rw [hstate]
        exact hw
      all_goals rw [hstate]
  | peerAccepted => exact h.accepted trivial (hok.accepts trivial) rfl rfl rfl rfl
  | peerReceiveAborted | sendShutdownComplete => exact streamSleepers_ended h.start h.recv rfl rfl
  | peerSendShutdown | peerSendAborted =>
    exact h.quiet id id (.inl rfl) (.inr rfl) rfl rfl rfl
  | sendComplete canceled clientContext =>
    have hstate : ∃ pool,
        (s.dispatchEvent w (.sendComplete canceled clientContext)).state.inner =
          { s.inner with writePool := pool } := by
      simp only [StreamSys.dispatchEvent]
      split <;> exact ⟨_, rfl⟩
    obtain ⟨pool, hstate⟩ := hstate
    refine h.quiet id id (.inl ?_) (.inl ?_) ?_ ?_ ?_
    all_goals rw [hstate]
  | shutdownComplete cs ac ba cr ec st =>
    by_cases hs : s.inner.state = .shutdownComplete
    · have hstate : (s.dispatchEvent w (.shutdownComplete cs ac ba cr ec st)).state.inner =
          s.inner := by
        simp only [StreamSys.dispatchEvent, StreamSys.after_inner,
          Stream.handleEventShutdownComplete_again hs]
      refine h.quiet id id (.inl ?_) (.inl ?_) ?_ ?_ ?_
      all_goals rw [hstate]
    · obtain ⟨map, cursor, hstate⟩ :=
        Stream.handleEventShutdownComplete_frame (w := w) hs cs ac ba cr ec st
      -- nobody waits for the end: MsQuic would have reported it before
      have hnil : s.inner.writeShutdownWaiters = [] := by
        by_contra hne
        exact hok.shutdown trivial (h.shutdown hne).2
      refine streamSleepers_ended (fun hne => absurd ?_ hne) (fun hr => ?_) ?_ ?_
      · simp only [StreamSys.dispatchEvent, StreamSys.after_inner, hstate]
        rfl
      · simp only [StreamSys.dispatchEvent, StreamSys.after_inner, hstate] at hr
        cases hr
      · simp only [StreamSys.dispatchEvent, StreamSys.after_inner, hstate]
        rfl
      · simp only [StreamSys.dispatchEvent, StreamSys.after_inner, hstate]
        exact hnil
  | _ => exact h.quiet id id (.inl rfl) (.inl rfl) rfl rfl rfl

omit [WillWake ω] in
theorem streamSleepers_init (h : StreamSys.Init s) : StreamSleepers [] s := by
  cases h with
  | opened streamType =>
    exact ⟨fun hne => absurd rfl hne, (fun hs => by cases hs), (fun hs => by cases hs),
      fun hne => absurd rfl hne, (fun hs => by cases hs),
      fun _ => ⟨rfl, (fun hs => by cases hs), (fun hs => by cases hs)⟩⟩
  | fromRaw streamType =>
    cases streamType with
    | bidirectional =>
      exact ⟨fun hne => absurd rfl hne, (fun hs => by cases hs), (fun hs => by cases hs),
        fun hne => absurd rfl hne, (fun hs => by cases hs),
        fun hna => absurd (.inl ⟨rfl, rfl⟩) hna⟩
    | unidirectional =>
      exact ⟨fun hne => absurd rfl hne, (fun hs => by cases hs), (fun hs => by cases hs),
        fun hne => absurd rfl hne, (fun hs => by cases hs),
        fun _ => ⟨rfl, (fun hs => by cases hs), (fun hs => by cases hs)⟩⟩

/-- **No lost wakeup**: nobody is left waiting for a stream's start, or for the end of its send
side, while the poll would answer. -/
theorem stream_no_lost_wakeup (h : (streamSystem w AcceptOrder).Run tr s) :
    s.inner.NoLostWaiter := by
  have hsleep : StreamSleepers tr s :=
    h.invariant (fun _ => streamSleepers_init) fun tr s l _ hok hi => by
      cases l with
      | call op => exact hi.call op
      | event ev => exact hi.event hok
  exact hsleep.noLostWaiter

end

/-- A start that fails on the peer's limit wakes its task; the task waits again until
ShutdownComplete. -/
theorem stream_no_lost_wakeup_failed :
    ∃ (tr : List (StreamStep Coalesced Nat)) (s : StreamSys Coalesced Nat),
      (streamSystem 64 AcceptOrder).Run tr s ∧
      tr.map Step.label =
        [.call (.pollStart 7 true (.ok ())), .event (.startComplete 86 0 false),
          .call (.pollStart 7 true (.ok ()))] ∧
      s.inner.startWaiters = [7] ∧ s.inner.NoLostWaiter := by
  have hfree {tr : List (StreamStep Coalesced Nat)} {s : StreamSys Coalesced Nat}
      {l : StreamLabel Nat} (ha : ¬ l.Accepts) (hs : ¬ l.IsShutdownComplete) :
      AcceptOrder tr s l :=
    ⟨fun h => absurd h ha, fun h => absurd h hs⟩
  have h0 := System.Run.start (S := streamSystem (R := Coalesced) (ω := Nat) 64 AcceptOrder)
    (.opened .bidirectional)
  have h1 := h0.step (.call (.pollStart 7 true (.ok ()))) (hfree id id)
  have h2 := h1.step (.event (.startComplete 86 0 false))
    (hfree (fun h => by cases h.2) id)
  have h3 := h2.step (.call (.pollStart 7 true (.ok ()))) (hfree id id)
  exact ⟨_, _, h3, rfl, rfl, stream_no_lost_wakeup h3⟩

end MsquicAsync
