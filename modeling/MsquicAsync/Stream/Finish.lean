import MsquicAsync.Stream.ReadEffect

/-!
# What a successful finish means

`poll_finish_write` answers Ok when the send side is shut down completely and
nothing has gone wrong (`FinishesOk`). The handler of SendShutdownComplete does
not look at the `graceful` flag, and ShutdownComplete shuts the send side down
too. So Ok means that MsQuic has reported a graceful shutdown, exactly when
these events come after such a report, with it, or beside a recorded error.
-/

namespace MsquicAsync

open Runs Ranges

variable {R ω : Type}

def StreamLabel.ReportsGraceful : StreamLabel ω → Prop
  | .event (.sendShutdownComplete graceful) => graceful = true
  | _ => False

/-- MsQuic has reported SendShutdownComplete with `graceful` set. -/
def GracefulReported (tr : List (StreamStep R ω)) : Prop := ∃ e ∈ tr, e.label.ReportsGraceful

/-- Something has gone wrong on the send side. -/
def StreamInner.SendFailed (x : StreamInner R ω) : Prop :=
  x.connError.isSome ∨ x.cancelledOnLoss = true ∨ x.sendErrorCode.isSome

/-- A finish would answer Ok. -/
def StreamInner.FinishesOk (x : StreamInner R ω) : Prop :=
  x.sendState = .shutdownComplete ∧ ¬ x.SendFailed

/-- The events that shut the send side down do so after a graceful report, with it, or beside
an error. -/
def FinishContract (tr : List (StreamStep R ω)) (s : StreamSys R ω) : StreamLabel ω → Prop
  | .event (.sendShutdownComplete graceful) =>
    graceful = true ∨ GracefulReported tr ∨ s.inner.SendFailed
  | .event (.shutdownComplete connectionShutdown _ _ _ _ _) =>
    s.inner.state = .shutdownComplete ∨ connectionShutdown = true ∨ GracefulReported tr ∨
      s.inner.SendFailed
  | _ => True

theorem gracefulReported_cons {e : StreamStep R ω} {tr : List (StreamStep R ω)} :
    GracefulReported (e :: tr) ↔ e.label.ReportsGraceful ∨ GracefulReported tr := by
  simp [GracefulReported]

section

variable {x y : StreamInner R ω}

theorem pollFinishWrite_ok_iff [WillWake ω] {cx : ω} {native : NativeResult} :
    (Stream.pollFinishWrite x cx native).result = .ready (.ok ()) ↔ x.FinishesOk := by
  unfold Stream.pollFinishWrite Stream.shutdownSend
  cases hs : x.sendState with
  | shutdownComplete =>
    simp only [Stream.writeShutdownComplete, StreamInner.FinishesOk, StreamInner.SendFailed, hs]
    cases x.connError <;> cases x.cancelledOnLoss <;> cases x.sendErrorCode <;> simp
  | startComplete => cases native <;> simp [StreamInner.FinishesOk, hs]
  | _ => simp [StreamInner.FinishesOk, hs]

theorem StreamInner.FinishesOk.of_keep (h : y.FinishesOk)
    (hs : y.sendState = .shutdownComplete → x.sendState = .shutdownComplete)
    (hc : y.connError = x.connError) (hl : y.cancelledOnLoss = x.cancelledOnLoss)
    (he : y.sendErrorCode = x.sendErrorCode) : x.FinishesOk := by
  obtain ⟨hsend, hfail⟩ := h
  refine ⟨hs hsend, ?_⟩
  rwa [StreamInner.SendFailed, hc, hl, he] at hfail

theorem StreamInner.FinishesOk.of_sendSide {calls : List StreamCall} (h : y.FinishesOk)
    (hs : SendSide x y calls) : x.FinishesOk := by
  have hsend := hs.sendState
  obtain ⟨_, _, _, _, hy⟩ := hs.frame
  refine h.of_keep (fun h' => ?_) (congrArg (fun y => y.connError) hy)
    (congrArg (fun y => y.cancelledOnLoss) hy) (congrArg (fun y => y.sendErrorCode) hy)
  rcases hsend with hsend | ⟨-, hsend⟩
  · rw [← hsend, h']
  · rw [hsend] at h'
    cases h'

theorem StreamInner.FinishesOk.of_startSide {calls : List StreamCall} (h : y.FinishesOk)
    (hs : StartSide x y calls) : x.FinishesOk := by
  obtain ⟨_, _, _, _, _, _, hy⟩ := hs.frame
  refine h.of_keep (fun h' => ?_) (congrArg (fun y => y.connError) hy)
    (congrArg (fun y => y.cancelledOnLoss) hy) (congrArg (fun y => y.sendErrorCode) hy)
  rcases hs.states with ⟨-, -, hsend⟩ | ⟨-, -, hsend⟩ | ⟨-, -, hsend⟩
  · rw [← hsend, h']
  · rw [hsend] at h'
    cases h'
  · rw [hsend] at h'
    cases h'

end

section

variable [RangeSet R] [WillWake ω] [StatusApi] {w : Nat} {s : StreamSys R ω}

/-- No call makes a finish succeed that would not have succeeded before. -/
theorem StreamInner.FinishesOk.of_call {op : StreamOp ω}
    (h : (s.call w op).state.inner.FinishesOk) : s.inner.FinishesOk := by
  rcases op.group with hop | hop | hop | ⟨cx, failedOnBlock, native, rfl⟩ |
    ⟨cx, errorCode, native, rfl⟩ | ⟨errorCode, native, rfl⟩
  · obtain ⟨popped, -, he⟩ := StreamSys.call_read (w := w) (s := s) hop
    obtain ⟨_, _, _, _, hy⟩ := he.frame
    rw [hy] at h
    exact h
  · exact h.of_sendSide (StreamSys.call_write (w := w) hop).1
  · obtain ⟨map, cursor, hy⟩ := StreamSys.call_held (w := w) (s := s) hop
    rw [hy] at h
    exact h
  · exact h.of_startSide (Stream.startSide_pollStart ..)
  · obtain ⟨⟨_, _, _, hy⟩, -⟩ := Stream.abortSide_pollAbortRead s.inner cx errorCode native
    rw [StreamSys.call, StreamSys.after_inner, hy] at h
    exact h
  · obtain ⟨⟨_, _, _, hy⟩, -⟩ := Stream.abortSide_abortRead s.inner errorCode native
    rw [StreamSys.call, StreamSys.after_inner, hy] at h
    exact h

end

/-- A finish polled now answers Ok only if a graceful shutdown has been reported. -/
def FinishSound [WillWake ω] (tr : List (StreamStep R ω)) (s : StreamSys R ω) : Prop :=
  ∀ cx native, (Stream.pollFinishWrite s.inner cx native).result = .ready (.ok ()) →
    GracefulReported tr

theorem finishSound_iff [WillWake ω] [Inhabited ω] {s : StreamSys R ω}
    {tr : List (StreamStep R ω)} :
    FinishSound tr s ↔ (s.inner.FinishesOk → GracefulReported tr) := by
  constructor
  · exact fun h hok => h default (.ok ()) (pollFinishWrite_ok_iff.mpr hok)
  · exact fun h cx native hok => h (pollFinishWrite_ok_iff.mp hok)

section

variable [RangeSet R] [WillWake ω] [StatusApi] {w : Nat} {ok : StreamContract R ω}
  {s : StreamSys R ω} {tr : List (StreamStep R ω)}

/-- **One event** leaves a finish sound exactly when it meets the contract. -/
theorem FinishSound.event_iff (h : s.inner.FinishesOk → GracefulReported tr)
    (ev : MsquicStreamEvent) :
    ((s.dispatchEvent w ev).state.inner.FinishesOk →
      GracefulReported ((streamSystem w ok).take s (.event ev) :: tr)) ↔
      FinishContract tr s (.event ev) := by
  rw [gracefulReported_cons, System.take_label]
  -- an event after which a finish succeeds only if it would have before
  have hkeep (hback : (s.dispatchEvent w ev).state.inner.FinishesOk → s.inner.FinishesOk)
      (hc : FinishContract tr s (.event ev)) :
      ((s.dispatchEvent w ev).state.inner.FinishesOk →
        (.event ev : StreamLabel ω).ReportsGraceful ∨ GracefulReported tr) ↔
        FinishContract tr s (.event ev) :=
    iff_of_true (fun hok => .inr (h (hback hok))) hc
  cases ev with
  | startComplete =>
    exact hkeep (fun hok => hok.of_startSide (Stream.startSide_startComplete ..)) trivial
  | peerAccepted =>
    exact hkeep (fun hok => hok.of_startSide (Stream.startSide_peerAccepted _)) trivial
  | peerReceiveAborted errorCode =>
    exact hkeep (fun hok => absurd (.inr (.inr rfl)) hok.2) trivial
  | cancelOnLoss errorCode => exact hkeep (fun hok => absurd (.inr (.inl rfl)) hok.2) trivial
  | sendComplete canceled clientContext =>
    refine hkeep (fun hok => ?_) trivial
    simp only [StreamSys.dispatchEvent] at hok
    split at hok <;> exact hok
  | sendShutdownComplete graceful =>
    have hok : (s.dispatchEvent w (.sendShutdownComplete graceful)).state.inner.FinishesOk ↔
        ¬ s.inner.SendFailed :=
      ⟨fun hok => hok.2, fun hfail => ⟨rfl, hfail⟩⟩
    rw [hok, ← or_iff_not_imp_left, or_comm, or_assoc]
    rfl
  | shutdownComplete cs ac ba cr ec st =>
    by_cases hs : s.inner.state = .shutdownComplete
    · refine hkeep (fun hok => ?_) (.inl hs)
      simp only [StreamSys.dispatchEvent, StreamSys.after_inner,
        Stream.handleEventShutdownComplete_again hs] at hok
      exact hok
    · obtain ⟨map, cursor, hy⟩ :=
        Stream.handleEventShutdownComplete_frame (w := w) hs cs ac ba cr ec st
      have hok : (s.dispatchEvent w (.shutdownComplete cs ac ba cr ec st)).state.inner.FinishesOk ↔
          ¬ (cs = true ∨ s.inner.SendFailed) := by
        simp only [StreamSys.dispatchEvent, StreamSys.after_inner, hy]
        simp only [StreamInner.FinishesOk, StreamInner.SendFailed, StreamInner.shutDown,
          Stream.shutdownConnError_isSome, true_and, or_assoc]
      rw [hok, ← or_iff_not_imp_left]
      simp only [StreamLabel.ReportsGraceful, FinishContract, hs, false_or, or_assoc]
      rw [or_comm (a := s.inner.SendFailed)]
  | _ => exact hkeep id trivial

/-- **A finish answers Ok only after a graceful report, exactly when** the events that shut
the send side down meet the contract. -/
theorem finish_sound_iff [Inhabited ω] (h : (streamSystem w ok).Run tr s) :
    (FinishSound tr s ∧ ∀ e tr', e :: tr' <:+ tr → FinishSound tr' e.pre) ↔
      ∀ e tr', e :: tr' <:+ tr → FinishContract tr' e.pre e.label := by
  refine h.exact (I := FinishSound) (C := FinishContract) ?_ (fun _ _ => id) ?_
  · rintro s (t | t)
    · exact finishSound_iff.mpr fun hok => by cases hok.1
    · exact finishSound_iff.mpr fun hok => by cases t <;> cases hok.1
  · intro tr s l _ _ hp
    rw [finishSound_iff] at hp
    simp only [finishSound_iff]
    cases l with
    | call op =>
      exact ⟨fun _ hok => gracefulReported_cons.mpr (.inr (hp (.of_call hok))), fun _ => trivial⟩
    | event ev => exact ⟨(FinishSound.event_iff hp ev).mpr, (FinishSound.event_iff hp ev).mp⟩

end

/-- A graceful SendShutdownComplete answers a pending finish. -/
theorem finish_sound_graceful :
    ∃ (tr : List (StreamStep Coalesced Nat)) (s : StreamSys Coalesced Nat),
      (streamSystem 64 fun _ _ _ => True).Run tr s ∧
      tr.map Step.label =
        [.event (.sendShutdownComplete true), .call (.pollFinishWrite 7 (.ok ()))] ∧
      (s.call 64 (.pollFinishWrite 7 (.ok ()))).result = .finishWrite (.ready (.ok ())) ∧
      FinishSound tr s := by
  have h0 := System.Run.start
    (S := streamSystem (R := Coalesced) (ω := Nat) 64 fun _ _ _ => True) (.fromRaw .bidirectional)
  have h1 := (h0.step (.call (.pollFinishWrite 7 (.ok ()))) trivial).step
    (.event (.sendShutdownComplete true)) trivial
  refine ⟨_, _, h1, rfl, rfl, ((finish_sound_iff h1).mpr fun e tr' hsuf => ?_).1⟩
  have he := hsuf.subset List.mem_cons_self
  simp only [List.mem_cons, List.not_mem_nil, or_false] at he
  rcases he with rfl | rfl
  · exact .inl rfl
  · trivial

/-- The send side of a stream goes down without having been delivered, as when its connection
is torn down: a finish polled before ShutdownComplete answers Ok. -/
theorem finish_reports_undelivered :
    ∃ (tr : List (StreamStep Coalesced Nat)) (s : StreamSys Coalesced Nat),
      (streamSystem 64 fun _ _ _ => True).Run tr s ∧
      tr.map Step.label =
        [.event (.sendShutdownComplete false), .call (.pollFinishWrite 7 (.ok ()))] ∧
      (s.call 64 (.pollFinishWrite 7 (.ok ()))).result = .finishWrite (.ready (.ok ())) ∧
      ¬ GracefulReported tr := by
  have h0 := System.Run.start
    (S := streamSystem (R := Coalesced) (ω := Nat) 64 fun _ _ _ => True) (.fromRaw .bidirectional)
  have h1 := (h0.step (.call (.pollFinishWrite 7 (.ok ()))) trivial).step
    (.event (.sendShutdownComplete false)) trivial
  refine ⟨_, _, h1, rfl, rfl, ?_⟩
  simp [GracefulReported, StreamLabel.ReportsGraceful]

end MsquicAsync
