import MsquicAsync.Stream.Completion

/-!
# The completion of an empty FIN

A FIN without bytes completes with the length 0, and only after every byte before
it: `register_read_complete` compares its offset with the cursor. It does not
when no byte has been completed yet, for there is no first range to compare with.
So the completion comes in turn exactly when no empty FIN behind some bytes is
released before the first of them.
-/

namespace MsquicAsync

open Runs Ranges Tiling
open Ranges.RangeSet (first contains)

variable {R ω : Type}

/-! ## Registrations -/

/-- A call of `register_read_complete`: the state it is made in, and its buffer. -/
structure Registration (R ω : Type) where
  before : StreamInner R ω
  buffer : StreamRecvBuffer

section

variable [RangeSet R]

/-- What the call returns. -/
def Registration.result (w : Nat) (r : Registration R ω) : Option Nat :=
  (Stream.registerBuffer w r.before r.buffer).2

/-- The calls for buffers that are released one after the other. -/
def Stream.registrations (w : Nat) :
    List StreamRecvBuffer → StreamInner R ω → List (Registration R ω)
  | [], _ => []
  | b :: rest, x => ⟨x, b⟩ :: registrations w rest (registerBuffer w x b).1

/-- The calls of a step, in the order in which it makes them. -/
def StreamSys.registrations (w : Nat) (s : StreamSys R ω) (l : StreamLabel ω) :
    List (Registration R ω) :=
  Stream.registrations w (s.releases l) <|
    match l with
    | .call _ => s.inner
    | .event _ => { s.inner with recvBuffers := [] }

/-- The calls of a history. -/
def registrations (w : Nat) (tr : List (StreamStep R ω)) : List (Registration R ω) :=
  tr.flatMap fun e => e.pre.registrations w e.label

end

section

variable [RangeSet R] {x : StreamInner R ω} {range : Nat × Nat} {offset : Nat}
  {isEmpty fin : Bool}

end

/-! ## The registrations of a run -/

section

variable [RangeSet R] {w : Nat} {tr : List (StreamStep R ω)} {s : StreamSys R ω}

theorem Stream.registered_discardBuffers (appCloseInProgress : Bool)
    (bufs : List StreamRecvBuffer) (x : StreamInner R ω) :
    registered (discardBuffers w appCloseInProgress bufs x).2 =
      (registrations w bufs x).filterMap fun r => r.result w := by
  induction bufs generalizing x with
  | nil => rfl
  | cons b rest ih =>
    obtain ⟨-, calls, -, hreg, hcalls⟩ := discardBuffers_cons appCloseInProgress b rest x
    rw [hcalls, registered_append, hreg, ih]
    show _ = ((⟨x, b⟩ : Registration R ω) :: _).filterMap _
    rw [List.filterMap_cons, Registration.result]
    cases (registerBuffer w x b).2 <;> rfl

/-- **A step makes these registrations and no others**: it reports what they return. -/
theorem StreamSys.registered_step [WillWake ω] [StatusApi] (h : ∀ b ∈ s.held, b.stream = true)
    (l : StreamLabel ω) :
    registered (s.step w l).calls = (s.registrations w l).filterMap fun r => r.result w := by
  have hread {op : StreamOp ω} (hop : op.IsRead) : registered (s.call w op).calls = [] := by
    obtain ⟨_, -, he⟩ := call_read (w := w) (s := s) hop
    exact congrArg registered he.calls
  have hwrite {op : StreamOp ω} (hop : op.IsWrite) : registered (s.call w op).calls = [] :=
    (call_write (w := w) (s := s) hop).1.registered
  cases l with
  | call op =>
    cases op with
    | dropRecvBuffer i =>
      cases hget : s.held[i]? with
      | none =>
        simp only [registrations, releases, step, call, hget]
        rfl
      | some b =>
        rw [registered_drop hget (h b (List.mem_of_getElem? hget))]
        simp only [registrations, releases, hget]
        show _ = [(⟨s.inner, b⟩ : Registration R ω)].filterMap _
        rw [List.filterMap_cons, Registration.result]
        cases (Stream.registerBuffer w s.inner b).2 <;> rfl
    | advance i count =>
      simp only [step, call]
      split
      · split <;> rfl
      · rfl
    | getBytesUptoSize i size =>
      simp only [step, call]
      split
      · split <;> rfl
      · rfl
    | pollRead | pollReadBuf | pollReadChunk => exact hread trivial
    | pollWrite | pollWriteChunk | pollWriteChunks | pollFinishWrite | pollAbortWrite
    | abortWrite => exact hwrite trivial
    | pollStart cx failedOnBlock native =>
      exact (Stream.startSide_pollStart s.inner cx failedOnBlock native).registered
    | pollAbortRead cx errorCode native =>
      exact (Stream.abortSide_pollAbortRead s.inner cx errorCode native).registered
    | abortRead errorCode native =>
      exact (Stream.abortSide_abortRead s.inner errorCode native).registered
  | event ev =>
    cases ev with
    | shutdownComplete cs ac ba cr ec st =>
      simp only [registrations, releases, step, dispatchEvent, after_calls]
      by_cases hs : s.inner.state = .shutdownComplete
      · rw [Stream.handleEventShutdownComplete_again hs, if_pos hs]
        rfl
      · rw [(Stream.handleEventShutdownComplete_first hs cs ac ba cr ec st).1, if_neg hs]
        exact Stream.registered_discardBuffers _ _ _
    | startComplete status id peerAccepted =>
      exact (Stream.startSide_startComplete s.inner status id peerAccepted).registered
    | sendComplete canceled clientContext =>
      simp only [step, dispatchEvent]
      split <;> rfl
    | _ => rfl

variable [LawfulRangeSet R]

variable [WillWake ω] [StatusApi]

theorem registered_run {ok : StreamContract R ω} (h : (streamSystem w ok).Run tr s) :
    (tr.flatMap fun e => registered e.out.calls) =
      (registrations w tr).filterMap fun r => r.result w := by
  refine h.invariant (I := fun tr _ => (tr.flatMap fun e => registered e.out.calls) =
    (registrations w tr).filterMap fun r => r.result w) (fun _ _ => rfl) fun tr s l hr _ ih => ?_
  have hstep := s.registered_step (w := w) (accounting_run hr).delivered l
  have hcons : registrations w ((streamSystem w ok).take s l :: tr) =
      s.registrations w l ++ registrations w tr := rfl
  rw [List.flatMap_cons, ih, hcons, List.filterMap_append, ← hstep]
  rfl

end

/-! ## FIN comes last -/

section

variable [RangeSet R] [WillWake ω] [StatusApi] {tr : List (StreamStep R ω)} {s : StreamSys R ω}

variable [LawfulRangeSet R]

end

/-! ## Two runs -/

/-- The stream of a peer, after two bytes and an empty FIN are read as two chunks. -/
def twoChunks : StreamSys Coalesced Nat where
  inner := { StreamInner.fromRaw .bidirectional with recvState := .shutdown, recvLen := 2 }
  held := [(StreamRecvBuffer.new 0 [.ofSlice [1, 2]] false).setStream,
    (StreamRecvBuffer.new 2 [] true).setStream]

end MsquicAsync
