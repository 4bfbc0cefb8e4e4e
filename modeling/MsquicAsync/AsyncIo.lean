import MsquicAsync.Pipe
import MsquicAsync.Stream.Causes

/-!
# AsyncRead and AsyncWrite

The streams implement these traits of tokio and of futures, each method by one
poll of the stream whose error becomes a `std::io::Error`. What callers of the
traits rely on is said here of the two ends of a stream, in every state that an
interleaving reaches: an end of file is the end of the stream, a write takes the
whole buffer, a flush leaves nothing behind, and the kind of an error tells what
happened to the stream.
-/

namespace MsquicAsync

open Runs Ranges System

variable {R ω : Type}

/-! ## The adapters -/

/-- The kinds that the errors of a stream become. -/
inductive ErrorKind where
  | notConnected
  | connectionReset
  | connectionAborted
  | other
  deriving DecidableEq, Repr

/-- A `std::io::Error` with the error it was made of. -/
structure StdIoError (ε : Type) where
  kind : ErrorKind
  error : ε
  deriving DecidableEq, Repr

def ReadError.kind : ReadError → ErrorKind
  | closed => .notConnected
  | reset _ => .connectionReset
  | cancelledOnLoss => .connectionAborted
  | connectionLost .connectionClosed => .notConnected
  | connectionLost _ => .connectionAborted
  | otherError _ => .other

def WriteError.kind : WriteError → ErrorKind
  | closed | finished | connectionLost .connectionClosed => .notConnected
  | stopped _ => .connectionReset
  | cancelledOnLoss => .connectionAborted
  | connectionLost _ => .connectionAborted
  | otherError _ => .other

def StdIoError.ofRead (e : ReadError) : StdIoError ReadError := ⟨e.kind, e⟩

def StdIoError.ofWrite (e : WriteError) : StdIoError WriteError := ⟨e.kind, e⟩

/-- `ready!(answer)?`, with the conversion of the error. -/
def readyInto {ε ε' α : Type} (convert : ε → ε') : Poll (Except ε α) → Poll (Except ε' α) :=
  Poll.map (Except.mapError convert)

/-- `AsyncRead::poll_read` by the answer of `poll_read` (futures) or `poll_read_buf` (tokio): the
bytes that it has put into the buffer. -/
def asyncPollRead : Poll (Except ReadError Bytes) → Poll (Except (StdIoError ReadError) Bytes) :=
  readyInto .ofRead

/-- `AsyncWrite::poll_write` by the answer of `poll_write` without a FIN. -/
def asyncPollWrite :
    Outcome (Poll (Except WriteError Nat)) → Outcome (Poll (Except (StdIoError WriteError) Nat)) :=
  Outcome.map (readyInto .ofWrite)

def asyncPollFlush : Poll (Except (StdIoError WriteError) Unit) := .ready (.ok ())

/-- `poll_shutdown` (tokio) and `poll_close` (futures) by the answer of `poll_finish_write`. -/
def asyncPollShutdown :
    Poll (Except WriteError Unit) → Poll (Except (StdIoError WriteError) Unit) :=
  readyInto .ofWrite

theorem readyInto_ok {ε ε' α : Type} {convert : ε → ε'} {p : Poll (Except ε α)} {a : α} :
    readyInto convert p = .ready (.ok a) ↔ p = .ready (.ok a) := by
  rcases p with (e | b) | _ <;> simp [readyInto, Except.mapError]

theorem readyInto_error {ε ε' α : Type} {convert : ε → ε'} {p : Poll (Except ε α)} {e' : ε'} :
    readyInto convert p = .ready (.error e') ↔ ∃ e, p = .ready (.error e) ∧ convert e = e' := by
  rcases p with (e | b) | _ <;> simp [readyInto, Except.mapError]

/-! ## What the kinds tell -/

/-- What the kind of an error tells of the history. -/
def ErrorKind.Told [StatusApi] (tr : List (StreamStep R ω)) : ErrorKind → Prop
  | connectionReset => ∃ errorCode, Caused tr (.reset errorCode) ∨ Caused tr (.stopped errorCode)
  | connectionAborted =>
    Caused tr .cancelledOnLoss ∨ ∃ e, e ≠ .connectionClosed ∧ Caused tr (.connectionLost e)
  | notConnected | other => True

/-- The kind of an error with that cause. -/
def StreamCause.kind : StreamCause → ErrorKind
  | reset _ | stopped _ => .connectionReset
  | cancelledOnLoss => .connectionAborted
  | connectionLost .connectionClosed => .notConnected
  | connectionLost _ => .connectionAborted
  | limitReached => .other

theorem ReadError.kind_eq {e : ReadError} {cause : StreamCause} (h : e.cause? = some cause) :
    e.kind = cause.kind := by
  cases e <;> cases h
  case connectionLost e => cases e <;> rfl
  all_goals rfl

theorem WriteError.kind_eq {e : WriteError} {cause : StreamCause} (h : e.cause? = some cause) :
    e.kind = cause.kind := by
  cases e <;> cases h
  case connectionLost e => cases e <;> rfl
  all_goals rfl

theorem Poll.error?_eq_some {ε α : Type} {p : Poll (Except ε α)} {e : ε} :
    p.error? = some e ↔ p = .ready (.error e) := by
  rcases p with (e' | a) | _ <;> simp [error?]

theorem Stream.writeShutdownComplete_of_none {α : Type} {x : StreamInner R ω}
    {done : Except WriteError α} (h : x.sideCause (x.sendErrorCode.map .stopped) = none) :
    writeShutdownComplete x done = done := by
  unfold StreamInner.sideCause at h
  unfold writeShutdownComplete
  cases hconn : x.connError with
  | some e => simp [hconn] at h
  | none =>
    cases hloss : x.cancelledOnLoss with
    | true => simp [hconn, hloss] at h
    | false =>
      cases hcode : x.sendErrorCode with
      | some errorCode => simp [hconn, hloss, hcode] at h
      | none => rfl

section

variable [StatusApi] {tr : List (StreamStep R ω)}

theorem StreamCause.kind_told {cause : StreamCause} (h : Caused tr cause) : cause.kind.Told tr := by
  cases cause with
  | reset errorCode => exact ⟨errorCode, .inl h⟩
  | stopped errorCode => exact ⟨errorCode, .inr h⟩
  | cancelledOnLoss => exact .inl h
  | connectionLost e =>
    cases e with
    | connectionClosed => trivial
    | _ => exact .inr ⟨_, (fun he => by cases he), h⟩
  | limitReached => trivial

theorem ReadError.kind_told {e : ReadError}
    (h : ∀ cause, e.cause? = some cause → Caused tr cause) : e.kind.Told tr := by
  cases hc : e.cause? with
  | some cause =>
    rw [ReadError.kind_eq hc]
    exact StreamCause.kind_told (h cause hc)
  | none => cases e <;> trivial

theorem WriteError.kind_told {e : WriteError}
    (h : ∀ cause, e.cause? = some cause → Caused tr cause) : e.kind.Told tr := by
  cases hc : e.cause? with
  | some cause =>
    rw [WriteError.kind_eq hc]
    exact StreamCause.kind_told (h cause hc)
  | none => cases e <;> trivial

variable [RangeSet R] [WillWake ω] {w : Nat} {s : StreamSys R ω} {ok : StreamContract R ω}

/-- What the errors of the adapters for reading tell: no other kind than the history has, and once
the receive side is shut down the kind of its cause, never an end of file. -/
structure ReadsTold (w : Nat) (tr : List (StreamStep R ω)) (s : StreamSys R ω) : Prop where
  error : ∀ op answer e, (s.call w op).result = .read answer →
    asyncPollRead answer = .ready (.error e) → e.kind.Told tr
  down : ∀ op answer cause, op.IsNonEmptyRead → s.inner.recvState = .shutdownComplete →
    (s.call w op).result = .read answer →
    causeOf tr ((tr.findSome? tellsReset).map .reset) = some cause →
    ∃ e, asyncPollRead answer = .ready (.error e) ∧ e.kind = cause.kind

/-- The same for writing; once the send side is shut down with a cause no write is accepted and no
shutdown succeeds. -/
structure WritesTold (w : Nat) (tr : List (StreamStep R ω)) (s : StreamSys R ω) : Prop where
  error : ∀ op answer e, (s.call w op).result = .write answer →
    asyncPollWrite answer = .returned (.ready (.error e)) → e.kind.Told tr
  shutdown : ∀ op answer e, (s.call w op).result = .finishWrite answer →
    asyncPollShutdown answer = .ready (.error e) → e.kind.Told tr
  down : ∀ op answer cause, op.WritesOrFinishes → s.inner.sendState = .shutdownComplete →
    (s.call w op).result = .write answer →
    causeOf tr ((tr.findSome? tellsStopped).map .stopped) = some cause →
    ∃ e, asyncPollWrite answer = .returned (.ready (.error e)) ∧ e.kind = cause.kind
  downShutdown : ∀ op answer cause, op.WritesOrFinishes → s.inner.sendState = .shutdownComplete →
    (s.call w op).result = .finishWrite answer →
    causeOf tr ((tr.findSome? tellsStopped).map .stopped) = some cause →
    ∃ e, asyncPollShutdown answer = .ready (.error e) ∧ e.kind = cause.kind
  finished : ∀ cx native, s.inner.sendState = .shutdownComplete →
    causeOf tr ((tr.findSome? tellsStopped).map .stopped) = none →
    asyncPollShutdown (Stream.pollFinishWrite s.inner cx native).result = .ready (.ok ())

theorem readsTold_run (h : (streamSystem w ok).Run tr s) : ReadsTold w tr s where
  error op answer e hr he := by
    obtain ⟨e, rfl, rfl⟩ := readyInto_error.mp he
    exact e.kind_told fun cause hc => (causesRecorded_run h).call op (by rw [hr]; exact hc)
  down op answer cause hop hs hr hc := by
    have hcause := (causesRecorded_run h).read_cause (w := w) hop hs
    rw [hc, hr] at hcause
    obtain ⟨e, he, hcause⟩ := Option.bind_eq_some_iff.mp hcause
    exact ⟨.ofRead e, readyInto_error.mpr ⟨e, Poll.error?_eq_some.mp he, rfl⟩,
      ReadError.kind_eq hcause⟩

theorem writesTold_run (h : (streamSystem w ok).Run tr s) : WritesTold w tr s where
  error op answer e hr he := by
    cases answer with
    | returned answer =>
      obtain ⟨e, rfl, rfl⟩ := readyInto_error.mp (Outcome.returned.inj he)
      exact e.kind_told fun cause hc => (causesRecorded_run h).call op (by rw [hr]; exact hc)
    | panicked => cases he
  shutdown op answer e hr he := by
    obtain ⟨e, rfl, rfl⟩ := readyInto_error.mp he
    exact e.kind_told fun cause hc => (causesRecorded_run h).call op (by rw [hr]; exact hc)
  down op answer cause hop hs hr hc := by
    have hcause := (causesRecorded_run h).write_cause (w := w) hop hs
    rw [hc, hr] at hcause
    cases answer with
    | returned answer =>
      obtain ⟨e, he, hcause⟩ := Option.bind_eq_some_iff.mp hcause
      exact ⟨.ofWrite e,
        congrArg Outcome.returned (readyInto_error.mpr ⟨e, Poll.error?_eq_some.mp he, rfl⟩),
        WriteError.kind_eq hcause⟩
    | panicked => cases hcause
  downShutdown op answer cause hop hs hr hc := by
    have hcause := (causesRecorded_run h).write_cause (w := w) hop hs
    rw [hc, hr] at hcause
    obtain ⟨e, he, hcause⟩ := Option.bind_eq_some_iff.mp hcause
    exact ⟨.ofWrite e, readyInto_error.mpr ⟨e, Poll.error?_eq_some.mp he, rfl⟩,
      WriteError.kind_eq hcause⟩
  finished cx native hs hc := by
    have hrec := causesRecorded_run h
    rw [← hrec.sendErrorCode, ← hrec.sideCause] at hc
    refine readyInto_ok.mpr ?_
    simp only [Stream.pollFinishWrite, Stream.shutdownSend, hs,
      Stream.writeShutdownComplete_of_none hc]

theorem async_write_whole (h : (streamSystem w ok).Run tr s) {cx : ω} {buf : Bytes} {fresh : Nat}
    {native : NativeResult} (hbuf : buf.length < 2 ^ 32)
    {answer : Outcome (Poll (Except WriteError Nat))} {n : Nat}
    (hr : (s.call w (.pollWrite cx buf false .NONE fresh native)).result = .write answer)
    (hn : asyncPollWrite answer = .returned (.ready (.ok n))) : n = buf.length := by
  have hpool : ∀ b ∈ s.inner.writePool, b.Empty := twins_self.mp (StreamTwins.run h).inner
  have hok : s.SendContract (.call (.pollWrite cx buf false .NONE fresh native)) :=
    ⟨fun pieces hp => Option.some.inj hp ▸ List.forall_mem_singleton.mpr hbuf,
      fun _ hc => by cases hc⟩
  obtain ⟨-, hexact⟩ := StreamSys.step_boxes (w := w) hok
  have hw : (s.call w (.pollWrite cx buf false .NONE fresh native)).result.written? = some n := by
    cases answer with
    | returned answer =>
      rw [hr, readyInto_ok.mp (Outcome.returned.inj hn)]
      rfl
    | panicked => cases hn
  obtain ⟨m, input, -, -, hp, rfl⟩ := (hexact hpool).count n hw
  obtain rfl : [buf] = input := Option.some.inj hp
  rw [List.flatten_singleton]

end

/-! ## End to end -/

section

variable [RangeSet R] [LawfulRangeSet R] [WillWake ω] [StatusApi] {w : Nat}
  {tr : List (Step (StreamSys R ω × StreamSys R ω) (StreamLabel ω ⊕ StreamLabel ω)
    (Out ω StreamCall StreamRes ⊕ Out ω StreamCall StreamRes))} {s t : StreamSys R ω}

/-- **What users of the traits rely on**: no early end of file, no short write, no buffering
before a flush, and kinds of errors that are true. -/
theorem async_traits_kept (h : (pipe R ω w).Run tr (s, t)) :
    (∀ op : StreamOp ω, op.IsNonEmptyRead → ∀ answer, (t.call w op).result = .read answer →
      asyncPollRead answer = .ready (.ok []) →
      Finished (lefts tr) ∧ handedOut (rights tr) = writtenBytes (lefts tr)) ∧
    (∀ cx buf fresh native answer n, buf.length < 2 ^ 32 →
      (s.call w (.pollWrite cx buf false .NONE fresh native)).result = .write answer →
      asyncPollWrite answer = .returned (.ready (.ok n)) → n = buf.length) ∧
    (asyncPollFlush = .ready (.ok ()) ∧ sentBytes (lefts tr) = writtenBytes (lefts tr)) ∧
    ReadsTold w (rights tr) t ∧ WritesTold w (lefts tr) s := by
  refine ⟨fun op hop answer hr hend => ?_,
    fun cx buf fresh native answer n hbuf hr hn => async_write_whole h.left hbuf hr hn,
    ⟨rfl, sentBytes_eq h.left⟩, readsTold_run h.right, writesTold_run h.left⟩
  have hend' : (t.call w op).result.EndOfStream := by
    rw [hr, readyInto_ok.mp hend]
    rfl
  exact (pipe_flow h).2 (allDelivered_of_end h.right hop hend')

end

/-- Three bytes and a shutdown cross, and the read behind them is an end of file. -/
theorem async_traits_kept_three :
    ∃ (tr : List (Step (StreamSys Coalesced Nat × StreamSys Coalesced Nat)
        (StreamLabel Nat ⊕ StreamLabel Nat)
        (Out Nat StreamCall StreamRes ⊕ Out Nat StreamCall StreamRes)))
      (s t : StreamSys Coalesced Nat),
      (pipe Coalesced Nat 64).Run tr (s, t) ∧
      tr.map Step.label =
        [.inr (.call (.pollReadBuf 7 8)),
          .inr (.event (.receive 0 3 [.ofSlice [1, 2, 3]] { fin := true })),
          .inl (.call (.pollFinishWrite 7 (.ok ()))),
          .inl (.call (.pollWrite 7 [1, 2, 3] false .NONE 1 (.ok ()))), .inl (.event .peerAccepted),
          .inl (.call (.pollStart 7 false (.ok ())))] ∧
      handedOut (rights tr) = [1, 2, 3] ∧
      (t.call 64 (.pollReadBuf 7 8)).result = .read (.ready (.ok [])) ∧
      Finished (lefts tr) ∧ handedOut (rights tr) = writtenBytes (lefts tr) := by
  have h0 := System.Run.start (S := pipe Coalesced Nat 64) (s := (_, _))
    ⟨.opened .bidirectional, .fromRaw .bidirectional⟩
  have h1 := h0.step_inl (.call (.pollStart 7 false (.ok ())))
    (writerContract_of (sendOrder_of id id) rfl fun _ h => by cases h) trivial
  have h2 := h1.step_inl (.event .peerAccepted)
    (writerContract_peerAccepted rfl rfl id) trivial
  have h3 := h2.step_inl (.call (.pollWrite 7 [1, 2, 3] false .NONE 1 (.ok ())))
    (writerContract_of (sendOrder_of id fun h => by cases h) rfl fun _ hp =>
      Option.some.inj hp ▸ by decide) trivial
  have h4 := h3.step_inl (.call (.pollFinishWrite 7 (.ok ())))
    (writerContract_of (sendOrder_of id fun h => by cases h) rfl fun _ h => by cases h) trivial
  have h5 := h4.step_inr (.event (.receive 0 3 [.ofSlice [1, 2, 3]] { fin := true }))
    (deliveryContract_first (by simp [QuicBuffer.ofSlice_bytes]))
    ⟨fun r hr => Option.some.inj hr ▸ ⟨List.prefix_refl _, fun _ =>
      ⟨⟨_, .head _, _, .head _, trivial⟩, rfl⟩⟩, False.elim⟩
  have h6 := h5.step_inr (.call (.pollReadBuf 7 8)) (deliveryContract_call id)
    ⟨fun _ h => (by cases h), False.elim⟩
  exact ⟨_, _, _, h6, rfl, rfl, rfl,
    (async_traits_kept h6).1 (.pollReadBuf 7 8) (Nat.succ_pos 7) _ rfl rfl⟩

end MsquicAsync
