import MsquicAsync.Connection.Shutdown
import MsquicAsync.OpenOutbound

/-!
# The reason of a lost connection

From Shutdown on the polls of a connection answer with the error it has recorded,
and panic if there is none. They never do (`lost_connection_explained`): whatever
loses the connection records why.
-/

namespace MsquicAsync

open Runs Ranges Connection

variable {ω : Type}

/-! ## Calls that panic -/

/-- The call has panicked. -/
def ConnectionRes.Panics : ConnectionRes → Prop
  | start r => r.Panics
  | acceptInboundStream r | acceptInboundUniStream r => r.Panics
  | receiveDatagram r => r.Panics
  | pollSendDatagram r => r.Panics
  | sendDatagram r => r.Panics
  | pollShutdown r => r.Panics
  | event r => r.Panics
  | openOutboundStream r => r.Panics
  | shutdown _ | setSslkeylogFile _ | callback _ => False

/-- If the connection is lost, its reason is recorded. -/
def ConnectionInnerExclusive.Explained (x : ConnectionInnerExclusive ω) : Prop :=
  x.state = .shutdown ∨ x.state = .shutdownComplete → x.error.isSome

namespace Connection

variable {x : ConnectionInnerExclusive ω}

theorem not_panics_expect_error {β : Type} (h : x.error.isSome) (f : ConnectionError → β) :
    ¬ ((expect x.error "error").map f).Panics := by
  obtain ⟨e, he⟩ := Option.isSome_iff_exists.mp h
  rw [he]
  exact id

theorem not_panics_whenConnected [WillWake ω] {ε α : Type} {cx : ω} {notStarted : ε}
    {wrap : ConnectionError → ε} {body : ConnectionRan ω (Outcome (Poll (Except ε α)))}
    (h : x.Explained) (hb : ¬ body.result.Panics) :
    ¬ (whenConnected x cx notStarted wrap body).result.Panics := by
  unfold whenConnected
  cases hs : x.state with
  | opened | connecting => exact id
  | connected => exact hb
  | shutdown => exact not_panics_expect_error (h (.inl hs)) _
  | shutdownComplete => exact not_panics_expect_error (h (.inr hs)) _

end Connection

namespace ConnectionSys

variable [WillWake ω] {s : ConnectionSys ω}

theorem call_not_panics (h : s.inner.Explained) (op : ConnectionOp ω) :
    ¬ (s.call op).result.Panics := by
  cases op with
  | pollStart cx native =>
    show ¬ (Connection.pollStart s.inner cx native).result.Panics
    unfold Connection.pollStart
    cases hs : s.inner.state with
    | opened => cases native <;> exact id
    | connecting | connected => exact id
    | shutdown => exact not_panics_expect_error (h (.inl hs)) _
    | shutdownComplete => exact not_panics_expect_error (h (.inr hs)) _
  | pollAcceptInboundStream | pollAcceptInboundUniStream | pollReceiveDatagram =>
    refine not_panics_whenConnected h ?_
    split <;> exact id
  | pollSendDatagram | pollOpenOutboundStream => exact not_panics_whenConnected h id
  | sendDatagram buf fresh native =>
    show ¬ (Connection.sendDatagram s.inner buf fresh native).result.Panics
    unfold Connection.sendDatagram
    cases hs : s.inner.state with
    | opened | connecting | connected => exact id
    | shutdown => exact not_panics_expect_error (h (.inl hs)) _
    | shutdownComplete => exact not_panics_expect_error (h (.inr hs)) _
  | pollShutdown cx errorCode =>
    show ¬ (Connection.pollShutdown s.inner cx errorCode).result.Panics
    unfold Connection.pollShutdown
    cases hs : s.inner.state with
    | opened | connecting | connected | shutdown => exact id
    | shutdownComplete =>
      simp only
      split
      · exact id
      · exact not_panics_expect_error (h (.inr hs)) _
  | pollEvent cx =>
    show ¬ (Connection.pollEvent s.inner cx).result.Panics
    unfold Connection.pollEvent
    cases hs : s.inner.state with
    | opened | connecting => exact id
    | connected | shutdown =>
      simp only
      split <;> exact id
    | shutdownComplete => exact not_panics_expect_error (h (.inr hs)) _
  | shutdown | setSslkeylogFile => exact id

/-- A lost connection without a reason makes a datagram send panic. -/
theorem explained_iff : s.inner.Explained ↔ ∀ op, ¬ (s.call op).result.Panics := by
  refine ⟨call_not_panics, fun h hs => ?_⟩
  by_contra he
  apply h (.sendDatagram [] 0 (.ok ()))
  show (Connection.sendDatagram s.inner [] 0 (.ok ())).result.Panics
  unfold Connection.sendDatagram
  rw [Option.not_isSome_iff_eq_none.mp he]
  rcases hs with hs | hs <;> rw [hs] <;> exact trivial

omit [WillWake ω] in
theorem dispatchEvent_not_panics (ev : MsquicConnectionEvent) :
    ¬ (s.dispatchEvent ev).result.Panics := by
  cases ev with
  | datagramSendStateChanged clientContext state =>
    cases state with
    | sent | canceled =>
      simp only [dispatchEvent]
      split <;> exact id
    | _ => exact id
  | _ => exact id

end ConnectionSys

/-! ## Futures that open a stream -/

section

variable {R : Type} [WillWake ω] [StatusApi]

theorem Stream.pollStart_ne_error {x : StreamInner R ω} {cx : ω} {failedOnBlock : Bool}
    {native : NativeResult} :
    (Stream.pollStart x cx failedOnBlock native).result ≠ .panicked "error" := by
  unfold Stream.pollStart
  split
  · cases native <;> simp
  · simp
  · split
    · simp
    · split
      · simp
      · split
        · simp
        · simp
        · cases x.connError <;> simp [expect]
        · cases x.connError <;> simp [expect]
        · simp

theorem OpenOutboundStream.startStream_ne_error {f : OpenOutboundStream R ω} {s : StreamSys R ω}
    {cx : ω} {native : NativeResult} : (f.startStream s cx native).result ≠ .panicked "error" := by
  intro h
  have hs : (Stream.pollStart s.inner cx f.failOnBlocked native).result ≠ .panicked "error" :=
    Stream.pollStart_ne_error
  unfold startStream at h
  cases hr : (Stream.pollStart s.inner cx f.failOnBlocked native).result with
  | returned p =>
    simp only [hr] at h
    cases h
  | panicked m =>
    simp only [hr] at h
    cases h
    exact hs hr

variable [RangeSet R]

theorem OpenOutboundStream.resume_ne_error {f : OpenOutboundStream R ω} {cx : ω}
    {opened native : NativeResult} : (f.resume cx opened native).result ≠ .panicked "error" := by
  unfold resume
  split
  · exact startStream_ne_error
  · split
    · simp
    · cases opened with
      | error e => simp
      | ok _ => exact startStream_ne_error

/-- On the connection a future's poll is the call that the runs have for it. -/
theorem OpenOutboundStream.poll_connection (x : ConnectionInnerExclusive ω)
    (f : OpenOutboundStream R ω) (cx : ω) (opened native : NativeResult) :
    (f.poll x cx opened native).state.1 = (Connection.pollOpenOutboundStream x cx).state := by
  unfold poll
  simp only
  split <;> rfl

/-- **A future that opens a stream** does not panic on the error of its connection. -/
theorem OpenOutboundStream.poll_ne_error {x : ConnectionInnerExclusive ω} (h : x.Explained)
    {f : OpenOutboundStream R ω} {cx : ω} {opened native : NativeResult} :
    (f.poll x cx opened native).result ≠ .panicked "error" := by
  have hgate : ¬ (Connection.pollOpenOutboundStream x cx).result.Panics :=
    not_panics_whenConnected h id
  unfold poll
  simp only
  split
  · exact resume_ne_error
  · simp
  · simp
  · next m hm =>
    rw [hm] at hgate
    exact absurd trivial hgate

end

/-! ## Runs -/

section

variable {R : Type} [RangeSet R] [WillWake ω] [StatusApi]
  {ok : List (ConnectionStep ω) → ConnectionSys ω → ConnectionLabel ω → Prop}
  {tr : List (ConnectionStep ω)} {s : ConnectionSys ω}

/-- **A lost connection always has a recorded reason**, whatever the application and MsQuic do:
so no call and no event panics, and no future that opens a stream panics on it. -/
theorem lost_connection_explained (h : (connectionSystem ok).Run tr s) :
    s.inner.Explained ∧ (∀ l, ¬ (s.step l).result.Panics) ∧
      ∀ (f : OpenOutboundStream R ω) cx opened native,
        (f.poll s.inner cx opened native).state.1 =
          (s.step (.call (.pollOpenOutboundStream cx))).state.inner ∧
        (f.poll s.inner cx opened native).result ≠ .panicked "error" := by
  have hx : s.inner.Explained := error_isSome h
  refine ⟨hx, fun l => ?_, fun f cx opened native =>
    ⟨f.poll_connection s.inner cx opened native, f.poll_ne_error hx⟩⟩
  cases l with
  | call op => exact ConnectionSys.call_not_panics hx op
  | event ev => exact ConnectionSys.dispatchEvent_not_panics ev

end

/-- A connection that is lost to its peer, connected again and shut down twice. -/
theorem lost_connection_explained_again :
    ∃ (tr : List (ConnectionStep Nat)) (s : ConnectionSys Nat),
      (connectionSystem fun _ _ _ => True).Run tr s ∧ tr.map Step.label =
        [.event (.shutdownComplete true true false), .call (.shutdown 0),
          .event (.connected default), .event (.shutdownInitiatedByPeer 3)] ∧
      s.inner.state = .shutdownComplete ∧ s.inner.error.isSome := by
  have h0 := System.Run.start (S := connectionSystem (ω := Nat) fun _ _ _ => True) (.new)
  have h4 := (((h0.step (.event (.shutdownInitiatedByPeer 3)) trivial).step
    (.event (.connected default)) trivial).step (.call (.shutdown 0)) trivial).step
    (.event (.shutdownComplete true true false)) trivial
  exact ⟨_, _, h4, rfl, rfl, (lost_connection_explained (R := Coalesced) h4).1 (.inr rfl)⟩

end MsquicAsync
