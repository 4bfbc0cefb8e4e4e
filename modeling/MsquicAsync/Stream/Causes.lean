import MsquicAsync.Stream.ReadEffect

/-!
# Why a stream's calls fail

What comes from outside the application makes a call fail in one of five ways
(`StreamCause`), and MsQuic has said so before in an event. `Caused` reads the
cause off the history: the last loss of the connection that the stream was told
of, a cancellation, the last error code of the peer. No call names a cause that
the history does not have, a lost connection hides the others, and once a side is
shut down every call on it names its cause (`stream_causes_truthful`).
-/

namespace MsquicAsync

open Runs Ranges

variable {R ω : Type}

/-! ## Causes -/

/-- What made a call fail, if it was not the call itself. -/
inductive StreamCause where
  | connectionLost (e : ConnectionError)
  | cancelledOnLoss
  | reset (errorCode : UInt64)
  | stopped (errorCode : UInt64)
  | limitReached
  deriving DecidableEq, Repr

def ReadError.cause? : ReadError → Option StreamCause
  | connectionLost e => some (.connectionLost e)
  | cancelledOnLoss => some .cancelledOnLoss
  | reset errorCode => some (.reset errorCode)
  | closed | otherError _ => none

def WriteError.cause? : WriteError → Option StreamCause
  | connectionLost e => some (.connectionLost e)
  | cancelledOnLoss => some .cancelledOnLoss
  | stopped errorCode => some (.stopped errorCode)
  | closed | finished | otherError _ => none

def StreamStartError.cause? : StreamStartError → Option StreamCause
  | connectionLost e => some (.connectionLost e)
  | limitReached => some .limitReached
  | connectionNotStarted | otherError _ => none

/-- The error a poll is ready with. -/
def Poll.error? {ε α : Type} : Poll (Except ε α) → Option ε
  | ready (.error e) => some e
  | _ => none

def StreamRes.cause? : StreamRes → Option StreamCause
  | start (.returned r) => r.error?.bind StreamStartError.cause?
  | read r => r.error?.bind ReadError.cause?
  | readChunk r => r.error?.bind ReadError.cause?
  | pollAbortRead r => r.error?.bind ReadError.cause?
  | abortRead r => (Poll.ready r).error?.bind ReadError.cause?
  | write (.returned r) => r.error?.bind WriteError.cause?
  | finishWrite r | pollAbortWrite r => r.error?.bind WriteError.cause?
  | abortWrite r => (Poll.ready r).error?.bind WriteError.cause?
  | _ => none

/-! ## What the events say -/

/-- The loss that a ShutdownComplete tells of, if the stream handles it. -/
def tellsLoss (e : StreamStep R ω) : Option ConnectionError :=
  match e.label with
  | .event (.shutdownComplete connectionShutdown _ byApp remotely errorCode status) =>
    if e.pre.inner.state = .shutdownComplete then none
    else Stream.shutdownConnError connectionShutdown byApp remotely errorCode status none
  | _ => none

def tellsReset (e : StreamStep R ω) : Option UInt64 :=
  match e.label with
  | .event (.peerSendAborted errorCode) => some errorCode
  | _ => none

def tellsStopped (e : StreamStep R ω) : Option UInt64 :=
  match e.label with
  | .event (.peerReceiveAborted errorCode) => some errorCode
  | _ => none

def tellsStarted (e : StreamStep R ω) : Option Status :=
  match e.label with
  | .event (.startComplete status _ _) => some status
  | _ => none

def StreamLabel.isCancelOnLoss : StreamLabel ω → Bool
  | .event (.cancelOnLoss _) => true
  | _ => false

/-- The history has the cause, and no loss of the connection unless that is the cause. -/
def Caused [StatusApi] (tr : List (StreamStep R ω)) : StreamCause → Prop
  | .connectionLost e => tr.findSome? tellsLoss = some e
  | .cancelledOnLoss => tr.findSome? tellsLoss = none ∧ ∃ e ∈ tr, e.label.isCancelOnLoss = true
  | .reset errorCode =>
    tr.findSome? tellsLoss = none ∧ tr.findSome? tellsReset = some errorCode
  | .stopped errorCode =>
    tr.findSome? tellsLoss = none ∧ tr.findSome? tellsStopped = some errorCode
  | .limitReached =>
    ∃ status, tr.findSome? tellsStarted = some status ∧
      StatusApi.tryAsStatusCode status = some .streamLimitReached

/-- What a side that is shut down fails with: the loss, the cancellation, or the peer's code. -/
def causeOf (tr : List (StreamStep R ω)) (code : Option StreamCause) : Option StreamCause :=
  match tr.findSome? tellsLoss with
  | some e => some (.connectionLost e)
  | none => if tr.any (·.label.isCancelOnLoss) then some .cancelledOnLoss else code

/-! ## What is recorded -/

/-- What the stream has recorded is what the events have said. -/
structure CausesRecorded (tr : List (StreamStep R ω)) (x : StreamInner R ω) : Prop where
  connError : x.connError = tr.findSome? tellsLoss
  cancelledOnLoss : x.cancelledOnLoss = tr.any (·.label.isCancelOnLoss)
  recvErrorCode : x.recvErrorCode = tr.findSome? tellsReset
  sendErrorCode : x.sendErrorCode = tr.findSome? tellsStopped
  startStatus : x.startStatus = tr.findSome? tellsStarted

section

variable [RangeSet R] [WillWake ω] [StatusApi] {w : Nat} {s : StreamSys R ω}
  {tr : List (StreamStep R ω)} {ok : StreamContract R ω}

/-- The fields that record a cause. -/
def StreamInner.causes (x : StreamInner R ω) :
    Option ConnectionError × Bool × Option UInt64 × Option UInt64 × Option Status :=
  (x.connError, x.cancelledOnLoss, x.recvErrorCode, x.sendErrorCode, x.startStatus)

theorem StreamSys.call_causes (op : StreamOp ω) :
    (s.call w op).state.inner.causes = s.inner.causes := by
  rcases op.group with h | h | h | ⟨cx, failedOnBlock, native, rfl⟩ | ⟨cx, errorCode, native, rfl⟩ |
    ⟨errorCode, native, rfl⟩
  · obtain ⟨_, -, he⟩ := StreamSys.call_read (w := w) (s := s) h
    obtain ⟨_, _, _, _, hy⟩ := he.frame
    rw [hy]
    rfl
  · obtain ⟨_, _, _, _, hy⟩ := (StreamSys.call_write (w := w) (s := s) h).1.frame
    rw [hy]
    rfl
  · obtain ⟨_, _, hy⟩ := StreamSys.call_held (w := w) (s := s) h
    rw [hy]
    rfl
  · show (Stream.pollStart s.inner cx failedOnBlock native).state.causes = _
    unfold Stream.pollStart
    split
    · cases native <;> rfl
    · rfl
    · cases s.inner.startStatus with
      | none => rfl
      | some startStatus =>
        simp only
        split
        · rfl
        · split <;> rfl
  · obtain ⟨_, _, _, hy⟩ := (Stream.abortSide_pollAbortRead s.inner cx errorCode native).frame
    rw [StreamSys.call, StreamSys.after_inner, hy]
    rfl
  · obtain ⟨_, _, _, hy⟩ := (Stream.abortSide_abortRead s.inner errorCode native).frame
    rw [StreamSys.call, StreamSys.after_inner, hy]
    rfl

omit [StatusApi] in
theorem shutdownConnError_or {cs ba cr : Bool} {ec : UInt64} {st : Status}
    (connError : Option ConnectionError) :
    Stream.shutdownConnError cs ba cr ec st connError =
      (Stream.shutdownConnError cs ba cr ec st none).or connError := by
  unfold Stream.shutdownConnError
  cases cs <;> cases ba <;> cases cr <;> rfl

theorem CausesRecorded.step (h : CausesRecorded tr s.inner) (l : StreamLabel ω) :
    CausesRecorded ((streamSystem w ok).take s l :: tr) (s.step w l).state.inner := by
  obtain ⟨hc, hl, hr, hs, hst⟩ := h
  have hsame {y : StreamInner R ω} (hy : y.causes = s.inner.causes)
      (h1 : tellsLoss ((streamSystem w ok).take s l) = none)
      (h2 : l.isCancelOnLoss = false)
      (h3 : tellsReset ((streamSystem w ok).take s l) = none)
      (h4 : tellsStopped ((streamSystem w ok).take s l) = none)
      (h5 : tellsStarted ((streamSystem w ok).take s l) = none) :
      CausesRecorded ((streamSystem w ok).take s l :: tr) y := by
    simp only [StreamInner.causes, Prod.mk.injEq] at hy
    obtain ⟨e1, e2, e3, e4, e5⟩ := hy
    refine ⟨?_, ?_, ?_, ?_, ?_⟩
    · rw [e1, hc, List.findSome?_cons, h1]
    · rw [e2, hl, List.any_cons, System.take_label, h2, Bool.false_or]
    · rw [e3, hr, List.findSome?_cons, h3]
    · rw [e4, hs, List.findSome?_cons, h4]
    · rw [e5, hst, List.findSome?_cons, h5]
  cases l with
  | call op => exact hsame (s.call_causes op) rfl rfl rfl rfl rfl
  | event ev =>
    cases ev with
    | startComplete status id peerAccepted =>
      have hy : (Stream.handleEventStartComplete s.inner status id peerAccepted).state.causes =
          (s.inner.connError, s.inner.cancelledOnLoss, s.inner.recvErrorCode,
            s.inner.sendErrorCode, some status) := by
        unfold Stream.handleEventStartComplete
        simp only
        split <;> split <;> rfl
      simp only [StreamInner.causes, Prod.mk.injEq] at hy
      obtain ⟨e1, e2, e3, e4, e5⟩ := hy
      exact ⟨e1.trans hc, e2.trans hl, e3.trans hr, e4.trans hs, e5⟩
    | peerSendAborted errorCode => exact ⟨hc, hl, rfl, hs, hst⟩
    | peerReceiveAborted errorCode => exact ⟨hc, hl, hr, rfl, hst⟩
    | cancelOnLoss errorCode => exact ⟨hc, rfl, hr, hs, hst⟩
    | shutdownComplete cs ac ba cr ec st =>
      by_cases hd : s.inner.state = .shutdownComplete
      · refine hsame ?_ ?_ rfl rfl rfl rfl
        · simp only [StreamSys.step, StreamSys.dispatchEvent, StreamSys.after_inner,
            Stream.handleEventShutdownComplete_again hd]
        · simp only [tellsLoss, System.take_label, System.take_pre, hd, if_true]
      · obtain ⟨map, cursor, hy⟩ := Stream.handleEventShutdownComplete_frame (w := w) hd cs ac ba
          cr ec st
        simp only [StreamSys.step, StreamSys.dispatchEvent, StreamSys.after_inner, hy]
        refine ⟨?_, hl, hr, hs, hst⟩
        show Stream.shutdownConnError cs ba cr ec st s.inner.connError = _
        rw [shutdownConnError_or, hc, List.findSome?_cons]
        simp only [tellsLoss, System.take_label, System.take_pre, hd, if_false]
        cases Stream.shutdownConnError cs ba cr ec st none <;> rfl
    | sendComplete canceled clientContext =>
      refine hsame ?_ rfl rfl rfl rfl rfl
      simp only [StreamSys.step, StreamSys.dispatchEvent]
      split <;> rfl
    | receive | peerSendShutdown | sendShutdownComplete | idealSendBufferSize | peerAccepted
    | other => exact hsame rfl rfl rfl rfl rfl rfl

theorem causesRecorded_run (h : (streamSystem w ok).Run tr s) : CausesRecorded tr s.inner := by
  refine h.invariant (I := fun tr s => CausesRecorded tr s.inner) ?_ fun _ _ l _ _ ih => ih.step l
  rintro _ (_ | _) <;> exact ⟨rfl, rfl, rfl, rfl, rfl⟩

end

/-! ## What a call answers -/

/-- What a side that is shut down fails with, by what is recorded. -/
def StreamInner.sideCause (x : StreamInner R ω) (code : Option StreamCause) : Option StreamCause :=
  match x.connError with
  | some e => some (.connectionLost e)
  | none => if x.cancelledOnLoss then some .cancelledOnLoss else code

/-- The calls that write a payload or finish it. -/
def StreamOp.WritesOrFinishes : StreamOp ω → Prop
  | pollWrite _ _ _ _ _ _ | pollWriteChunk _ _ _ _ _ _ | pollWriteChunks _ _ _ _ _ _
  | pollFinishWrite _ _ => True
  | _ => False

namespace Stream

variable {x : StreamInner R ω}

theorem readShutdownComplete_cause {α : Type} :
    (Poll.ready (readShutdownComplete x : Except ReadError (Option α))).error?.bind
      ReadError.cause? = x.sideCause (x.recvErrorCode.map .reset) := by
  unfold readShutdownComplete StreamInner.sideCause
  cases x.connError with
  | some e => rfl
  | none =>
    cases x.cancelledOnLoss with
    | true => rfl
    | false => cases x.recvErrorCode <;> rfl

theorem writeShutdownComplete_cause {α : Type} {done : Except WriteError α}
    (h : (Poll.ready done).error?.bind WriteError.cause? = none) :
    (Poll.ready (writeShutdownComplete x done)).error?.bind WriteError.cause? =
      x.sideCause (x.sendErrorCode.map .stopped) := by
  unfold writeShutdownComplete StreamInner.sideCause
  cases x.connError with
  | some e => rfl
  | none =>
    cases x.cancelledOnLoss with
    | true => rfl
    | false =>
      cases x.sendErrorCode with
      | some errorCode => rfl
      | none => exact h

variable [WillWake ω] {cx : ω}

/-- A read names a cause only when the receive side is shut down. -/
theorem pollReadGeneric_cause {α : Type} {f : List StreamRecvBuffer → ReadFn α} :
    (pollReadGeneric x cx f).result.poll.error?.bind ReadError.cause? =
      if x.recvState = .shutdownComplete then x.sideCause (x.recvErrorCode.map .reset)
      else none := by
  unfold pollReadGeneric
  split
  · next h => simp [h, Poll.error?, ReadError.cause?]
  · next h => simp [h, Poll.error?]
  · next h =>
    rw [if_neg (by rw [h]; exact nofun)]
    simp only
    split <;> rfl
  · next h => simp [h, Poll.error?]
  · next h =>
    rw [if_pos h]
    exact readShutdownComplete_cause

theorem error?_getD {α : Type} (r : ReadPoll (Option α)) (a : α) :
    (r.getD a).poll.error? = r.poll.error? := by
  obtain ⟨(_ | _) | _, _⟩ := r <;> rfl

theorem pollWriteGeneric_cause {extraFlags : SendFlags}
    {writeFn : WriteBuffer → WriteBuffer × WriteStatus Nat} {fresh : Nat} {native : NativeResult} :
    (StreamRes.write (countWritten
        (pollWriteGeneric x cx extraFlags writeFn fresh native).result)).cause? =
      if x.sendState = .shutdownComplete then x.sideCause (x.sendErrorCode.map .stopped)
      else none := by
  unfold pollWriteGeneric
  split
  · next h => simp [h, countWritten, StreamRes.cause?, Except.map, Poll.error?, WriteError.cause?]
  · next h => simp [h, countWritten, StreamRes.cause?, Poll.error?]
  · next h =>
    rw [if_neg (by rw [h]; exact nofun)]
    unfold sendWrite
    simp only
    split <;> first | rfl | (cases native <;> rfl)
  · next h => simp [h, countWritten, StreamRes.cause?, Except.map, Poll.error?, WriteError.cause?]
  · next h =>
    have hdone : (Poll.ready (.error .finished : Except WriteError (Option Nat))).error?.bind
        WriteError.cause? = none := rfl
    rw [if_pos h, ← writeShutdownComplete_cause hdone]
    generalize writeShutdownComplete x _ = r
    cases r <;> rfl

end Stream

section

variable [RangeSet R] [WillWake ω] [StatusApi] {w : Nat} {s : StreamSys R ω}

theorem StreamSys.read_cause {op : StreamOp ω} (h : op.IsRead) :
    (s.call w op).result.cause? = none ∨
      (s.inner.recvState = .shutdownComplete ∧ (s.call w op).result.cause? =
        s.inner.sideCause (s.inner.recvErrorCode.map .reset)) := by
  have hgeneric {α : Type} {cx : ω} {f : List StreamRecvBuffer → ReadFn α} {r : StreamRes}
      (hr : r.cause? = (Stream.pollReadGeneric s.inner cx f).result.poll.error?.bind
        ReadError.cause?) : r.cause? = none ∨ (s.inner.recvState = .shutdownComplete ∧
          r.cause? = s.inner.sideCause (s.inner.recvErrorCode.map .reset)) := by
    rw [hr, Stream.pollReadGeneric_cause]
    split
    · next hs => exact .inr ⟨hs, rfl⟩
    · exact .inl rfl
  cases op with
  | pollRead cx len => exact hgeneric (congrArg (Option.bind · _) (Stream.error?_getD _ _))
  | pollReadBuf cx remaining =>
    by_cases h0 : remaining = 0
    · left
      simp only [call, Stream.pollReadBuf, if_pos h0]
      rfl
    · simp only [call, Stream.pollReadBuf, if_neg h0]
      exact hgeneric (congrArg (Option.bind · _) (Stream.error?_getD _ _))
  | pollReadChunk cx => exact hgeneric rfl
  | _ => exact h.elim

theorem StreamSys.read_cause_eq {op : StreamOp ω} (h : op.IsNonEmptyRead)
    (hs : s.inner.recvState = .shutdownComplete) :
    (s.call w op).result.cause? = s.inner.sideCause (s.inner.recvErrorCode.map .reset) := by
  have hgeneric {α : Type} {cx : ω} {f : List StreamRecvBuffer → ReadFn α} :
      (Stream.pollReadGeneric s.inner cx f).result.poll.error?.bind ReadError.cause? =
        s.inner.sideCause (s.inner.recvErrorCode.map .reset) := by
    rw [Stream.pollReadGeneric_cause, if_pos hs]
  cases op with
  | pollRead cx len => exact (congrArg (Option.bind · _) (Stream.error?_getD _ _)).trans hgeneric
  | pollReadBuf cx remaining =>
    have h0 : remaining ≠ 0 := Nat.ne_of_gt h
    simp only [call, Stream.pollReadBuf, if_neg h0]
    exact (congrArg (Option.bind · _) (Stream.error?_getD _ _)).trans hgeneric
  | pollReadChunk cx => exact hgeneric
  | _ => exact h.elim

omit [RangeSet R] [StatusApi] in
theorem Stream.shutdownSend_cause {x : StreamInner R ω} {cx : ω} {flags : StreamShutdownFlags}
    {errorCode : UInt64} {native : NativeResult} {done : Except WriteError Unit} :
    (shutdownSend x cx flags errorCode native done).result.error?.bind WriteError.cause? =
      if x.sendState = .shutdownComplete then (Poll.ready done).error?.bind WriteError.cause?
      else none := by
  unfold shutdownSend
  simp only
  split
  · next h => simp [h, Poll.error?]
  · next h =>
    rw [if_neg (by rw [h]; exact nofun)]
    cases native <;> rfl
  · next h => simp [h, Poll.error?]
  · next h => simp [h]
  · next h => simp [h, Poll.error?, WriteError.cause?]

/-- **A write or a finish** names a cause exactly when the send side is shut down. -/
theorem StreamSys.write_cause {op : StreamOp ω} (h : op.WritesOrFinishes) :
    (s.call w op).result.cause? =
      if s.inner.sendState = .shutdownComplete then
        s.inner.sideCause (s.inner.sendErrorCode.map .stopped)
      else none := by
  cases op with
  | pollWrite | pollWriteChunk | pollWriteChunks => exact Stream.pollWriteGeneric_cause
  | pollFinishWrite cx native =>
    show (Stream.pollFinishWrite s.inner cx native).result.error?.bind WriteError.cause? = _
    rw [Stream.pollFinishWrite, Stream.shutdownSend_cause, Stream.writeShutdownComplete_cause rfl]
  | _ => exact h.elim

end

/-! ## Every run -/

section

variable {s : StreamSys R ω} {tr : List (StreamStep R ω)} {cause : StreamCause}

theorem CausesRecorded.sideCause (h : CausesRecorded tr s.inner) (code : Option StreamCause) :
    s.inner.sideCause code = causeOf tr code := by
  rw [StreamInner.sideCause, causeOf, h.connError, h.cancelledOnLoss]

variable [StatusApi]

theorem caused_of_causeOf {code : Option StreamCause} (h : causeOf tr code = some cause)
    (hcode : tr.findSome? tellsLoss = none → code = some cause → Caused tr cause) :
    Caused tr cause := by
  unfold causeOf at h
  split at h
  · next e he =>
    obtain rfl := Option.some.inj h
    exact he
  · next hnone =>
    split at h
    · next hany =>
      obtain rfl := Option.some.inj h
      exact ⟨hnone, List.any_eq_true.mp hany⟩
    · exact hcode hnone h

theorem caused_reset (hnone : tr.findSome? tellsLoss = none)
    (h : (tr.findSome? tellsReset).map StreamCause.reset = some cause) : Caused tr cause := by
  obtain ⟨errorCode, he, rfl⟩ := Option.map_eq_some_iff.mp h
  exact ⟨hnone, he⟩

theorem caused_stopped (hnone : tr.findSome? tellsLoss = none)
    (h : (tr.findSome? tellsStopped).map StreamCause.stopped = some cause) : Caused tr cause := by
  obtain ⟨errorCode, he, rfl⟩ := Option.map_eq_some_iff.mp h
  exact ⟨hnone, he⟩

variable [RangeSet R] [WillWake ω] {w : Nat} {ok : StreamContract R ω}

theorem CausesRecorded.pollStart (h : CausesRecorded tr s.inner) {cx : ω} {failedOnBlock : Bool}
    {native : NativeResult}
    (hc : (s.call w (.pollStart cx failedOnBlock native)).result.cause? = some cause) :
    Caused tr cause := by
  replace hc : (StreamRes.start
    (Stream.pollStart s.inner cx failedOnBlock native).result).cause? = some cause := hc
  unfold Stream.pollStart at hc
  split at hc
  · cases native <;> cases hc
  · cases hc
  · cases hst : s.inner.startStatus with
    | none =>
      rw [hst] at hc
      cases hc
    | some startStatus =>
      rw [hst] at hc
      simp only at hc
      have hlast : tr.findSome? tellsStarted = some startStatus := h.startStatus.symm.trans hst
      split at hc
      · cases hc
      · cases hcode : StatusApi.tryAsStatusCode startStatus with
        | none =>
          rw [hcode] at hc
          cases hc
        | some code =>
          rw [hcode] at hc
          have hlost (hc : (StreamRes.start ((expect s.inner.connError "conn_error").map fun e =>
              .ready (.error (.connectionLost e)))).cause? = some cause) : Caused tr cause := by
            cases hconn : s.inner.connError with
            | none =>
              rw [hconn] at hc
              cases hc
            | some e =>
              rw [hconn] at hc
              obtain rfl := Option.some.inj hc
              exact h.connError.symm.trans hconn
          cases code
          case streamLimitReached =>
            obtain rfl := Option.some.inj hc
            exact ⟨startStatus, hlast, hcode⟩
          case aborted | invalidState => exact hlost hc
          all_goals cases hc

theorem CausesRecorded.pollAbortWrite (h : CausesRecorded tr s.inner) {cx : ω}
    {errorCode : UInt64} {native : NativeResult}
    (hc : (s.call w (.pollAbortWrite cx errorCode native)).result.cause? = some cause) :
    Caused tr cause := by
  replace hc : (Stream.pollAbortWrite s.inner cx errorCode native).result.error?.bind
    WriteError.cause? = some cause := hc
  rw [Stream.pollAbortWrite, Stream.shutdownSend_cause] at hc
  split at hc
  · cases hconn : s.inner.connError with
    | some e =>
      rw [hconn] at hc
      obtain rfl := Option.some.inj hc
      exact h.connError.symm.trans hconn
    | none =>
      rw [hconn] at hc
      refine caused_stopped (h.connError.symm.trans hconn) ?_
      rw [← h.sendErrorCode, ← hc]
      cases s.inner.sendErrorCode <;> rfl
  · cases hc

theorem CausesRecorded.pollAbortRead (h : CausesRecorded tr s.inner) {cx : ω}
    {errorCode : UInt64} {native : NativeResult}
    (hc : (s.call w (.pollAbortRead cx errorCode native)).result.cause? = some cause) :
    Caused tr cause := by
  replace hc : (Stream.pollAbortRead s.inner cx errorCode native).result.error?.bind
    ReadError.cause? = some cause := hc
  unfold Stream.pollAbortRead at hc
  split at hc
  · cases hc
  · cases native <;> cases hc
  · cases hconn : s.inner.connError with
    | some e =>
      rw [hconn] at hc
      obtain rfl := Option.some.inj hc
      exact h.connError.symm.trans hconn
    | none =>
      rw [hconn] at hc
      refine caused_reset (h.connError.symm.trans hconn) ?_
      rw [← h.recvErrorCode, ← hc]
      cases s.inner.recvErrorCode <;> rfl
  · cases hc

omit [StatusApi] [RangeSet R] [WillWake ω] in
theorem abort_cause {errorCode : UInt64} {native : NativeResult} {x : StreamInner R ω} :
    (StreamRes.abortWrite (Stream.abortWrite x errorCode native).result).cause? = none ∧
      (StreamRes.abortRead (Stream.abortRead x errorCode native).result).cause? = none := by
  constructor
  · unfold Stream.abortWrite
    split
    · cases native <;> rfl
    · rfl
  · unfold Stream.abortRead
    split
    · cases native <;> rfl
    · rfl

theorem StreamSys.held_cause {op : StreamOp ω} (h : op.IsHeld) :
    (s.call w op).result.cause? = none := by
  cases op with
  | dropRecvBuffer i =>
    simp only [call]
    split <;> rfl
  | advance | getBytesUptoSize =>
    simp only [call]
    split
    · split <;> rfl
    · rfl
  | _ => exact h.elim

theorem CausesRecorded.call (h : CausesRecorded tr s.inner) (op : StreamOp ω)
    (hc : (s.call w op).result.cause? = some cause) : Caused tr cause := by
  have hwrite (hop : op.WritesOrFinishes) : Caused tr cause := by
    rw [StreamSys.write_cause hop] at hc
    split at hc
    · rw [h.sideCause, h.sendErrorCode] at hc
      exact caused_of_causeOf hc caused_stopped
    · cases hc
  rcases op.group with hop | hop | hop | ⟨cx, failedOnBlock, native, rfl⟩ |
    ⟨cx, errorCode, native, rfl⟩ | ⟨errorCode, native, rfl⟩
  · rcases StreamSys.read_cause (w := w) (s := s) hop with hnone | ⟨-, heq⟩
    · rw [hnone] at hc
      cases hc
    · rw [heq, h.sideCause, h.recvErrorCode] at hc
      exact caused_of_causeOf hc caused_reset
  · cases op with
    | pollWrite | pollWriteChunk | pollWriteChunks | pollFinishWrite => exact hwrite trivial
    | pollAbortWrite => exact h.pollAbortWrite hc
    | abortWrite => exact absurd (abort_cause.1.symm.trans hc) nofun
    | _ => exact hop.elim
  · exact absurd ((StreamSys.held_cause hop).symm.trans hc) nofun
  · exact h.pollStart hc
  · exact h.pollAbortRead hc
  · exact absurd (abort_cause.2.symm.trans hc) nofun

/-- A side that is shut down names its cause. -/
theorem CausesRecorded.read_cause (h : CausesRecorded tr s.inner) {op : StreamOp ω}
    (hop : op.IsNonEmptyRead) (hs : s.inner.recvState = .shutdownComplete) :
    (s.call w op).result.cause? = causeOf tr ((tr.findSome? tellsReset).map .reset) := by
  rw [StreamSys.read_cause_eq hop hs, h.sideCause, h.recvErrorCode]

theorem CausesRecorded.write_cause (h : CausesRecorded tr s.inner) {op : StreamOp ω}
    (hop : op.WritesOrFinishes) (hs : s.inner.sendState = .shutdownComplete) :
    (s.call w op).result.cause? = causeOf tr ((tr.findSome? tellsStopped).map .stopped) := by
  rw [StreamSys.write_cause hop, if_pos hs, h.sideCause, h.sendErrorCode]

/-- **The causes that calls name are true**, and no call on a side that is shut down hides its
cause. -/
theorem stream_causes_truthful (h : (streamSystem w ok).Run tr s) :
    (∀ op cause, (s.call w op).result.cause? = some cause → Caused tr cause) ∧
      (s.inner.recvState = .shutdownComplete → ∀ op : StreamOp ω, op.IsNonEmptyRead →
        (s.call w op).result.cause? = causeOf tr ((tr.findSome? tellsReset).map .reset)) ∧
      (s.inner.sendState = .shutdownComplete → ∀ op : StreamOp ω, op.WritesOrFinishes →
        (s.call w op).result.cause? = causeOf tr ((tr.findSome? tellsStopped).map .stopped)) := by
  have hrec := causesRecorded_run h
  exact ⟨fun op cause hc => hrec.call op hc, fun hs op hop => hrec.read_cause hop hs,
    fun hs op hop => hrec.write_cause hop hs⟩

end

/-- The peer aborts both sides, and a read and a write say so. -/
theorem stream_causes_truthful_peer :
    ∃ (tr : List (StreamStep Coalesced Nat)) (s : StreamSys Coalesced Nat),
      (streamSystem 64 fun _ _ _ => True).Run tr s ∧
      tr.map Step.label = [.event (.peerReceiveAborted 9), .event (.peerSendAborted 5)] ∧
      (s.call 64 (.pollRead 7 4)).result.cause? = some (.reset 5) ∧
      (s.call 64 (.pollFinishWrite 7 (.ok ()))).result.cause? = some (.stopped 9) ∧
      Caused tr (.reset 5) ∧ Caused tr (.stopped 9) := by
  have h0 := System.Run.start
    (S := streamSystem (R := Coalesced) (ω := Nat) 64 fun _ _ _ => True) (.fromRaw .bidirectional)
  have h2 := (h0.step (.event (.peerSendAborted 5)) trivial).step
    (.event (.peerReceiveAborted 9)) trivial
  obtain ⟨hcaused, hread, hwrite⟩ := stream_causes_truthful h2
  have h5 := hread rfl (.pollRead 7 4) (Nat.succ_pos 3)
  have h9 := hwrite rfl (.pollFinishWrite 7 (.ok ())) trivial
  exact ⟨_, _, h2, rfl, h5, h9, hcaused _ _ h5, hcaused _ _ h9⟩

end MsquicAsync
