import MsquicAsync.Stream.Twins

/-!
# Calls of a stream that MsQuic refuses

Each call of the stream makes one native call at most, before it changes
anything. If that fails, the call answers with its error and leaves the stream
as it was (`StreamSys.call_refused`).
-/

namespace MsquicAsync

open Runs Ranges

variable {R ω : Type}

/-- The error of a native call that has failed. -/
def StreamCall.failed? : StreamCall → Option Status
  | start _ (.error e) | send _ _ _ (.error e) | shutdown _ _ (.error e) => some e
  | _ => none

namespace Stream

variable {x : StreamInner R ω} {cx : ω} {errorCode : UInt64} {native : NativeResult}
  {c : StreamCall} {e : Status}

variable [WillWake ω]

theorem undone_pollStart [StatusApi] {failedOnBlock : Bool}
    (hc : c ∈ (pollStart x cx failedOnBlock native).calls) (hf : c.failed? = some e) :
    Undone x c (.returned (.ready (.error (.otherError e))))
      (pollStart x cx failedOnBlock native) := by
  revert hc
  unfold pollStart
  split
  · cases native with
    | error e' =>
      intro hc
      obtain ⟨rfl, rfl⟩ := failed_eq StreamCall.failed? rfl hc hf
      exact ⟨⟨_, .same, rfl⟩, rfl⟩
    | ok _ => exact fun hc => absurd hf (not_failed StreamCall.failed? rfl hc)
  · exact fun hc => by cases hc
  · split
    · exact fun hc => by cases hc
    · split
      · exact fun hc => by cases hc
      · split <;> exact fun hc => by cases hc

theorem undone_shutdownSend {flags : StreamShutdownFlags} {done : Except WriteError Unit}
    (hc : c ∈ (shutdownSend x cx flags errorCode native done).calls) (hf : c.failed? = some e) :
    Undone x c (.ready (.error (.otherError e)))
      (shutdownSend x cx flags errorCode native done) := by
  revert hc
  unfold shutdownSend
  simp only
  split
  case h_2 =>
    cases native with
    | error e' =>
      intro hc
      obtain ⟨rfl, rfl⟩ := failed_eq StreamCall.failed? rfl hc hf
      exact ⟨⟨_, .same, rfl⟩, rfl⟩
    | ok _ => exact fun hc => absurd hf (not_failed StreamCall.failed? rfl hc)
  all_goals exact fun hc => by cases hc

omit [WillWake ω] in
theorem undone_abortWrite (hc : c ∈ (abortWrite x errorCode native).calls)
    (hf : c.failed? = some e) :
    Undone x c (.error (.otherError e)) (abortWrite x errorCode native) := by
  revert hc
  unfold abortWrite
  split
  · cases native with
    | error e' =>
      intro hc
      obtain ⟨rfl, rfl⟩ := failed_eq StreamCall.failed? rfl hc hf
      exact ⟨⟨_, .same, rfl⟩, rfl⟩
    | ok _ => exact fun hc => absurd hf (not_failed StreamCall.failed? rfl hc)
  · exact fun hc => by cases hc

theorem undone_pollAbortRead (hc : c ∈ (pollAbortRead x cx errorCode native).calls)
    (hf : c.failed? = some e) :
    Undone x c (.ready (.error (.otherError e))) (pollAbortRead x cx errorCode native) := by
  revert hc
  unfold pollAbortRead
  split
  · exact fun hc => by cases hc
  · cases native with
    | error e' =>
      intro hc
      obtain ⟨rfl, rfl⟩ := failed_eq StreamCall.failed? rfl hc hf
      exact ⟨⟨_, .same, rfl⟩, rfl⟩
    | ok _ => exact fun hc => absurd hf (not_failed StreamCall.failed? rfl hc)
  · split
    · exact fun hc => by cases hc
    · split <;> exact fun hc => by cases hc
  · exact fun hc => by cases hc

omit [WillWake ω] in
theorem undone_abortRead (hc : c ∈ (abortRead x errorCode native).calls)
    (hf : c.failed? = some e) :
    Undone x c (.error (.otherError e)) (abortRead x errorCode native) := by
  revert hc
  unfold abortRead
  split
  · cases native with
    | error e' =>
      intro hc
      obtain ⟨rfl, rfl⟩ := failed_eq StreamCall.failed? rfl hc hf
      exact ⟨⟨_, .same, rfl⟩, rfl⟩
    | ok _ => exact fun hc => absurd hf (not_failed StreamCall.failed? rfl hc)
  · exact fun hc => by cases hc

omit [WillWake ω] in
theorem undone_sendWrite {α : Type} {extraFlags : SendFlags}
    {writeFn : WriteBuffer → WriteBuffer × WriteStatus α} {fresh : Nat}
    (hx : ∀ b ∈ x.writePool, b.Empty) (hw : WriteBuffer.KeepsPtr writeFn)
    (hc : c ∈ (sendWrite x extraFlags writeFn fresh native).calls) (hf : c.failed? = some e) :
    Undone x c (.returned (.ready (.error (.otherError e))))
      (sendWrite x extraFlags writeFn fresh native) := by
  obtain ⟨a, rest, hpop⟩ := WriteBuffer.popPool_eq hx fresh
  have hback {b : WriteBuffer} (hb : b.ptr = a) : PoolGrows x.writePool (b.reset :: rest) := by
    have h := @poolGrows_refused x.writePool fresh b
    rw [hpop] at h
    exact h hb hx
  revert hc
  unfold sendWrite
  simp only [hpop, hw a, WriteBuffer.getBuffers_at]
  rcases (writeFn (WriteBuffer.new 0)).2 with val | val | (_ | val)
  · cases native with
    | error e' =>
      intro hc
      obtain ⟨rfl, rfl⟩ := failed_eq StreamCall.failed? rfl hc hf
      exact ⟨⟨_, hback rfl, rfl⟩, rfl⟩
    | ok _ => exact fun hc => absurd hf (not_failed StreamCall.failed? rfl hc)
  · cases native with
    | error e' =>
      intro hc
      obtain ⟨rfl, rfl⟩ := failed_eq StreamCall.failed? rfl hc hf
      exact ⟨⟨_, hback rfl, rfl⟩, rfl⟩
    | ok _ => exact fun hc => absurd hf (not_failed StreamCall.failed? rfl hc)
  · exact fun hc => by cases hc
  · cases native with
    | error e' =>
      intro hc
      obtain ⟨rfl, rfl⟩ := failed_eq StreamCall.failed? rfl hc hf
      exact ⟨⟨_, hback rfl, rfl⟩, rfl⟩
    | ok _ => exact fun hc => absurd hf (not_failed StreamCall.failed? rfl hc)

theorem undone_pollWriteGeneric {α : Type} {extraFlags : SendFlags}
    {writeFn : WriteBuffer → WriteBuffer × WriteStatus α} {fresh : Nat}
    (hx : ∀ b ∈ x.writePool, b.Empty) (hw : WriteBuffer.KeepsPtr writeFn)
    (hc : c ∈ (pollWriteGeneric x cx extraFlags writeFn fresh native).calls)
    (hf : c.failed? = some e) :
    Undone x c (.returned (.ready (.error (.otherError e))))
      (pollWriteGeneric x cx extraFlags writeFn fresh native) := by
  revert hc
  unfold pollWriteGeneric
  split
  case h_3 => exact fun hc => undone_sendWrite hx hw hc hf
  all_goals exact fun hc => by cases hc

end Stream

/-! ## Steps -/

/-- The call answers with the error of a native call. -/
def StreamRes.FailsWith (e : Status) : StreamRes → Prop
  | start r => r = .returned (.ready (.error (.otherError e)))
  | write r => r = .returned (.ready (.error (.otherError e)))
  | finishWrite r | pollAbortWrite r => r = .ready (.error (.otherError e))
  | abortWrite r => r = .error (.otherError e)
  | pollAbortRead r => r = .ready (.error (.otherError e))
  | abortRead r => r = .error (.otherError e)
  | _ => False

/-- `t` is `s`, but its pool may have one more empty box. -/
def StreamSys.SameButPool (s t : StreamSys R ω) : Prop :=
  ∃ p, PoolGrows s.inner.writePool p ∧ t = { s with inner := { s.inner with writePool := p } }

/-- The call has done nothing but a native call that has failed. -/
structure StreamRefused (s : StreamSys R ω) (c : StreamCall) (e : Status)
    (r : Ran (StreamSys R ω) ω StreamCall StreamRes) : Prop where
  state : s.SameButPool r.state
  result : r.result.FailsWith e
  woken : r.woken = []
  calls : r.calls = [c]

theorem StreamCall.failed?_reports {c : StreamCall} (h : c.Reports) : c.failed? = none := by
  cases c with
  | registered | receiveComplete => rfl
  | _ => exact h.elim

theorem StreamCall.acceptedSends_failed {c : StreamCall} {e : Status} (h : c.failed? = some e) :
    acceptedSends [c] = [] := by
  cases c with
  | send buffers flags context result =>
    cases result with
    | error e' => rfl
    | ok _ => cases h
  | _ => rfl

theorem StreamRefused.of_undone {s : StreamSys R ω} {ρ : Type} {c : StreamCall} {e : Status}
    {answer : ρ} {r : StreamRan R ω ρ} {g : ρ → StreamRes} (h : Undone s.inner c answer r)
    (hf : c.failed? = some e) (hg : (g answer).FailsWith e) : StreamRefused s c e (s.after r g) := by
  obtain ⟨⟨p, hp, hs⟩, ho⟩ := h
  have hcalls : r.calls = [c] := congrArg Out.calls ho
  have hresult : r.result = answer := congrArg Out.result ho
  refine ⟨⟨p, hp, ?_⟩, ?_, congrArg Out.woken ho, hcalls⟩
  · show (⟨r.state, s.held, s.native ++ acceptedSends r.calls⟩ : StreamSys R ω) = _
    rw [hs, hcalls, StreamCall.acceptedSends_failed hf, List.append_nil]
    rfl
  · rw [StreamSys.after_result, hresult]
    exact hg

section

variable [RangeSet R] [WillWake ω] [StatusApi] {w : Nat} {s : StreamSys R ω}

/-- **A call whose native call fails** answers with its error, and has done nothing else. -/
theorem StreamSys.call_refused (hx : ∀ b ∈ s.inner.writePool, b.Empty) {op : StreamOp ω}
    {c : StreamCall} {e : Status} (hc : c ∈ (s.call w op).calls) (hf : c.failed? = some e) :
    StreamRefused s c e (s.call w op) := by
  -- a read makes no call, and a call on a held buffer reports completed bytes only
  have hread (hop : op.IsRead) : StreamRefused s c e (s.call w op) := by
    obtain ⟨popped, -, he⟩ := StreamSys.call_read (w := w) (s := s) hop
    rw [he.calls] at hc
    cases hc
  have hheld (hop : op.IsHeld) : StreamRefused s c e (s.call w op) := by
    rw [StreamCall.failed?_reports (StreamSys.call_held_reports hop c hc)] at hf
    cases hf
  cases op with
  | pollStart => exact .of_undone (Stream.undone_pollStart hc hf) hf rfl
  | pollRead | pollReadBuf | pollReadChunk => exact hread trivial
  | pollWrite cx buf fin =>
    exact .of_undone ((Stream.undone_pollWriteGeneric hx
      (Stream.keepsPtr_putSliceFn buf fin) hc hf).lift _) hf rfl
  | pollWriteChunk cx chunk fin =>
    exact .of_undone ((Stream.undone_pollWriteGeneric hx
      (Stream.keepsPtr_putChunkFn chunk fin) hc hf).lift _) hf rfl
  | pollWriteChunks cx chunks fin =>
    exact .of_undone ((Stream.undone_pollWriteGeneric hx
      (Stream.keepsPtr_putChunksFn chunks fin) hc hf).lift _) hf rfl
  | pollFinishWrite | pollAbortWrite => exact .of_undone (Stream.undone_shutdownSend hc hf) hf rfl
  | abortWrite => exact .of_undone (Stream.undone_abortWrite hc hf) hf rfl
  | pollAbortRead => exact .of_undone (Stream.undone_pollAbortRead hc hf) hf rfl
  | abortRead => exact .of_undone (Stream.undone_abortRead hc hf) hf rfl
  | dropRecvBuffer | advance | getBytesUptoSize => exact hheld trivial

end

end MsquicAsync
