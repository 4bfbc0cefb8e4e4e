import MsquicAsync.H3.HeldStream

/-!
# Sending a payload

`send_data` stores a payload in `writing`, and `poll_ready` writes it chunk by
chunk: it lends the stream and a copy of the chunk to a future, which a later
poll resumes, and advances the payload by what was accepted. Here are the runs
of one `SendStream` under all its methods. What is accepted is taken off the
front of the payload, exactly once (`Writes`). A failed write leaves the rest in
`writing`, where the next `send_data` takes it for a misuse.
-/

namespace MsquicAsync.H3

open Runs

/-! ## Runs -/

/-- A method of `SendStream`, with what the underlying stream answers. -/
inductive SendOp (β δ : Type) where
  | sendData (data : β)
  | pollReady (answers : List (Except WriteError Nat))
  | pollFinish (answer : Poll (Except WriteError Unit))
  | reset (resetCode : UInt64)
  | sendId (id : Option UInt64) (valid : Bool)
  | pollSend (buf : δ) (answer : Poll (Except WriteError Nat))

inductive SendRes (δ : Type) where
  | sendData (r : Outcome (Except (StreamErrorIncoming WriteError) Unit))
  | poll (r : Outcome (Poll (Except (StreamErrorIncoming WriteError) Unit)))
  | unit (r : Outcome Unit)
  | id (r : Outcome UInt64)
  | pollSend (r : Outcome (Poll (Except (StreamErrorIncoming WriteError) Nat) × δ))

section

variable (σ β δ : Type)

abbrev SendStep := Step (SendStream σ β) (SendOp β δ) (Out Empty (StreamUse σ) (SendRes δ))

variable {σ β δ} [Buf β] [Buf δ] [StatusApi]

def SendStream.step (x : SendStream σ β) :
    SendOp β δ → Ran (SendStream σ β) Empty (StreamUse σ) (SendRes δ)
  | .sendData data => (x.sendData data).lift id .sendData
  | .pollReady answers => (x.pollReady answers).lift id .poll
  | .pollFinish answer => (x.pollFinish answer).lift id .poll
  | .reset resetCode => (x.reset resetCode).lift id .unit
  | .sendId id valid => (x.sendId id valid).lift (fun x => x) .id
  | .pollSend buf answer => (x.pollSend buf answer).lift id .pollSend

/-- One send stream under a contract for its user and for the underlying stream. -/
def sendSystem (ok : List (SendStep σ β δ) → SendStream σ β → SendOp β δ → Prop) :
    System (SendStream σ β) (SendOp β δ) (Out Empty (StreamUse σ) (SendRes δ)) where
  init x := ∃ stream, x = .new stream
  ok := ok
  next x op := ((x.step op).state, (x.step op).toOut)

end

/-! ## Failed writes -/

section

variable {σ β δ : Type}

def SendOp.IsSendData : SendOp β δ → Prop
  | sendData _ => True
  | _ => False

/-- The result is a `ConnectionErrorIncoming`. -/
def SendRes.IsConnectionError : SendRes δ → Prop
  | sendData r => ∃ e, r = .returned (.error (.connectionErrorIncoming e))
  | poll r => ∃ e, r = .returned (.ready (.error (.connectionErrorIncoming e)))
  | _ => False

/-- A `send_data` or a `poll_ready` has reported a connection error. -/
def ReportsConnectionError (e : SendStep σ β δ) : Prop :=
  match e.label with
  | .sendData _ | .pollReady _ => e.out.result.IsConnectionError
  | _ => False

/-- The last `poll_ready` has failed. -/
def WriteFailed : List (SendStep σ β δ) → Prop
  | [] => False
  | e :: tr =>
    match e.label with
    | .pollReady _ => ∃ err, e.out.result = .poll (.returned (.ready (.error err)))
    | _ => WriteFailed tr

/-- No payload has been given since the last `poll_ready`, which was ready. -/
def MaySend : List (SendStep σ β δ) → Prop
  | [] => True
  | e :: tr =>
    match e.label with
    | .sendData _ => False
    | .pollReady _ => ∃ r, e.out.result = .poll (.returned (.ready r))
    | _ => MaySend tr

/-- `send_data` is called in turn, and no write fails because the connection is lost. -/
def SendContract (tr : List (SendStep σ β δ)) (_ : SendStream σ β) : SendOp β δ → Prop
  | .sendData _ => MaySend tr
  | .pollReady answers => ∀ e, .error (.connectionLost e) ∉ answers
  | _ => True

variable [Buf β]

namespace SendStream

variable [StatusApi] {x : SendStream σ β}

/-- How a `poll_ready` ends: `writing` is empty if it is ready and well, and an error comes from a
write. -/
structure Settles (answers : List (Except WriteError Nat))
    (r : H3Ran (SendStream σ β) σ (Poll (Except (StreamErrorIncoming WriteError) Unit))) : Prop where
  writing : r.state.writing = none ↔ r.result = .returned (.ready (.ok ()))
  error : ∀ err, r.result = .returned (.ready (.error err)) →
    ∃ e, .error e ∈ answers ∧ convertWriteError e = .returned err

omit [Buf β] in
theorem settles_of_not_ready {answers : List (Except WriteError Nat)}
    {r : H3Ran (SendStream σ β) σ (Poll (Except (StreamErrorIncoming WriteError) Unit))}
    (hw : r.state.writing ≠ none) (hr : ∀ a, r.result ≠ .returned (.ready a)) :
    Settles answers r :=
  ⟨iff_of_false hw (hr _), fun _ he => absurd he (hr _)⟩

theorem settles_pollReadyLoop (data : β) (answers : List (Except WriteError Nat)) :
    Settles answers (x.pollReadyLoop data answers) := by
  have hdone (answers : List (Except WriteError Nat)) {x : SendStream σ β} {data : β}
      (hr : Buf.remaining data = 0) : Settles answers (x.pollReadyLoop data answers) := by
    rw [pollReadyLoop_done hr]
    exact ⟨iff_of_true rfl rfl, fun _ he => by cases he⟩
  induction answers generalizing x data with
  | nil =>
    by_cases hr : Buf.remaining data = 0
    · exact hdone [] hr
    simp only [pollReadyLoop, hr, if_false]
    split <;> exact settles_of_not_ready (Option.some_ne_none _) fun _ h => by cases h
  | cons answer answers ih =>
    by_cases hr : Buf.remaining data = 0
    · exact hdone (answer :: answers) hr
    rw [pollReadyLoop, if_neg hr]
    simp only
    split
    · exact settles_of_not_ready (Option.some_ne_none _) fun _ h => by cases h
    · exact settles_of_not_ready (Option.some_ne_none _) fun _ h => by cases h
    · cases answer with
      | error e =>
        simp only
        refine ⟨iff_of_false (Option.some_ne_none _) fun h => ?_, fun err he => ⟨e, List.mem_cons_self, ?_⟩⟩
        · cases hc : convertWriteError e <;> rw [hc] at h <;> cases h
        · cases hc : convertWriteError e <;> rw [hc] at he <;> cases he
          rfl
      | ok cnt =>
        simp only
        cases Buf.advance data cnt with
        | none => exact settles_of_not_ready (Option.some_ne_none _) fun _ h => by cases h
        | some data' =>
          refine ⟨(ih data').writing, fun err herr => ?_⟩
          obtain ⟨e, hmem, hconv⟩ := (ih data').error err herr
          exact ⟨e, List.mem_cons_of_mem _ hmem, hconv⟩

theorem settles_pollReady (answers : List (Except WriteError Nat)) :
    Settles answers (x.pollReady answers) := by
  unfold pollReady
  split
  · exact settles_pollReadyLoop ..
  · next hw => exact ⟨iff_of_true hw rfl, fun _ he => by cases he⟩

end SendStream

theorem convertWriteError_connection [StatusApi] {e : WriteError} {c : ConnectionErrorIncoming}
    (h : convertWriteError e = .returned (.connectionErrorIncoming c)) :
    ∃ error, e = .connectionLost error := by
  cases e with
  | connectionLost error => exact ⟨error, rfl⟩
  | _ => cases h

variable [Buf δ] [StatusApi] {x : SendStream σ β}

theorem SendStream.step_state {op : SendOp β δ} (hs : ¬ op.IsSendData)
    (hp : ∀ answers, op ≠ .pollReady answers) : (x.step op).state = x := by
  cases op with
  | sendData data => exact absurd trivial hs
  | pollReady answers => exact absurd rfl (hp answers)
  | pollFinish answer =>
    simp only [step, pollFinish]
    split <;> rfl
  | reset resetCode =>
    simp only [step, reset]
    split <;> rfl
  | sendId id valid =>
    simp only [step, sendId]
    split <;> rfl
  | pollSend buf answer =>
    simp only [step, pollSend]
    split
    · rfl
    · split <;> rfl

variable {tr : List (SendStep σ β δ)}

/-- Where a payload may be given, `writing` is empty unless the last write has failed. -/
theorem writing_of_maySend {ok : List (SendStep σ β δ) → SendStream σ β → SendOp β δ → Prop}
    (h : (sendSystem ok).Run tr x) : MaySend tr → (x.writing = none ↔ ¬ WriteFailed tr) := by
  refine h.invariant (I := fun tr x => MaySend tr → (x.writing = none ↔ ¬ WriteFailed tr)) ?_ ?_
  · rintro x ⟨stream, rfl⟩ -
    exact iff_of_true rfl id
  · intro tr x op _ _ ih hmay
    cases op with
    | sendData data => exact hmay.elim
    | pollReady answers =>
      obtain ⟨r, hr⟩ := hmay
      replace hr : (x.pollReady answers).result = .returned (.ready r) := by injection hr
      show (x.pollReady answers).state.writing = none ↔ ¬ ∃ err, SendRes.poll _ = .poll _
      rw [(SendStream.settles_pollReady answers).writing]
      simp only [SendRes.poll.injEq]
      show (x.pollReady answers).result = _ ↔ ¬ ∃ err, (x.pollReady answers).result = _
      rw [hr]
      cases r <;> simp
    | pollFinish | reset | sendId | pollSend =>
      show (SendStream.step x _).state.writing = none ↔ ¬ WriteFailed tr
      rw [SendStream.step_state id fun _ h => by cases h]
      exact ih hmay

/-- A call reports a connection error if it is a `send_data` after a failed write. -/
theorem reportsConnectionError_iff (h : (sendSystem SendContract).Run tr x) {e : SendStep σ β δ}
    {tr' : List (SendStep σ β δ)} (he : e :: tr' <:+ tr) :
    ReportsConnectionError e ↔ e.label.IsSendData ∧ WriteFailed tr' := by
  obtain ⟨hr, hok, heq⟩ := h.of_suffix he
  rw [heq] at hok ⊢
  cases hl : e.label with
  | sendData data =>
    rw [hl] at hok
    have hw := writing_of_maySend hr hok
    show (∃ c, (e.pre.sendData data).result = _) ↔ True ∧ WriteFailed tr'
    rw [true_and]
    unfold SendStream.sendData
    split
    · next hsome =>
      refine iff_of_true ⟨_, rfl⟩ ?_
      by_contra hf
      rw [hw.mpr hf] at hsome
      cases hsome
    · next hnone =>
      refine iff_of_false (fun ⟨_, hc⟩ => by cases hc) ?_
      exact hw.mp (Option.not_isSome_iff_eq_none.mp hnone)
  | pollReady answers =>
    rw [hl] at hok
    refine iff_of_false ?_ fun hs => hs.1
    rintro ⟨c, hc⟩
    obtain ⟨werr, hmem, hconv⟩ := (SendStream.settles_pollReady answers).error _ hc
    obtain ⟨error, rfl⟩ := convertWriteError_connection hconv
    exact hok _ hmem
  | pollFinish | reset | sendId | pollSend => exact iff_of_false id fun hs => hs.1

/-- **A failed write stays a failure of its stream, exactly if** no payload is given after it. -/
theorem write_failure_stays_iff (h : (sendSystem SendContract).Run tr x) :
    (∀ e ∈ tr, ¬ ReportsConnectionError e) ↔
      ∀ e tr', e :: tr' <:+ tr → e.label.IsSendData → ¬ WriteFailed tr' := by
  constructor
  · intro hnone e tr' he hs hf
    exact hnone e (he.subset List.mem_cons_self) ((reportsConnectionError_iff h he).mpr ⟨hs, hf⟩)
  · intro hall e he hrep
    obtain ⟨l₁, l₂, hl⟩ := List.append_of_mem he
    have hsuf : e :: l₂ <:+ tr := ⟨l₁, hl.symm⟩
    obtain ⟨hs, hf⟩ := (reportsConnectionError_iff h hsuf).mp hrep
    exact hall e l₂ hsuf hs hf

end

theorem SendStream.pollReady_byte (b : UInt8) (stream : Nat) :
    ((⟨some stream, some [b], .unreachable⟩ : SendStream Nat Bytes).pollReady [.ok 1]).result =
      .returned (.ready (.ok ())) := by
  simp [pollReady, pollReadyLoop, lend, Buf.remaining, Buf.chunk, Buf.advance]

theorem SendStream.pollReady_stopped (b : UInt8) (stream : Nat) (errorCode : UInt64) :
    ((⟨some stream, some [b], .unreachable⟩ : SendStream Nat Bytes).pollReady
        [.error (.stopped errorCode)]).result =
      .returned (.ready (.error (.streamTerminated errorCode))) ∧
    ((⟨some stream, some [b], .unreachable⟩ : SendStream Nat Bytes).pollReady
        [.error (.stopped errorCode)]).state = ⟨some stream, some [b], .answered⟩ := by
  simp [pollReady, pollReadyLoop, lend, Buf.remaining, Buf.chunk, convertWriteError]

/-- Two payloads are written one after the other. -/
theorem write_failure_stays_two_payloads :
    ∃ (tr : List (SendStep Nat Bytes Bytes)) (x : SendStream Nat Bytes),
      (sendSystem SendContract).Run tr x ∧
      tr.map Step.label = [.sendData [2], .pollReady [.ok 1], .sendData [1]] ∧
      ∀ e ∈ tr, ¬ ReportsConnectionError e := by
  have h0 := System.Run.start (S := sendSystem (σ := Nat) (β := Bytes) (δ := Bytes) SendContract)
    ⟨0, rfl⟩
  have h1 := h0.step (SendOp.sendData [1]) trivial
  have h2 := h1.step (SendOp.pollReady [.ok 1]) (by intro e he; simp at he)
  have hres := congrArg (SendRes.poll (δ := Bytes)) (SendStream.pollReady_byte 1 0)
  have h3 := h2.step (SendOp.sendData [2]) (by exact ⟨_, hres⟩)
  refine ⟨_, _, h3, rfl, (write_failure_stays_iff h3).mpr ?_⟩
  refine forall_suffix_cons.mpr ⟨fun _ hf => ?_, ?_⟩
  · obtain ⟨err, he⟩ := hf
    cases he.symm.trans hres
  refine forall_suffix_cons.mpr ⟨fun hs => hs.elim, ?_⟩
  exact forall_suffix_cons.mpr ⟨fun _ hf => hf, forall_suffix_nil⟩

/-- The peer stops reading: `poll_ready` reports the stream as terminated, and the next `send_data`
an internal error of the connection. -/
theorem stopped_stream_reports_internal_error :
    ∃ (tr : List (SendStep Nat Bytes Bytes)) (x : SendStream Nat Bytes) (e : SendStep Nat Bytes Bytes),
      (sendSystem SendContract).Run (e :: tr) x ∧
      tr.map (fun e => e.out.result) =
        [.poll (.returned (.ready (.error (.streamTerminated 7)))), .sendData (.returned (.ok ()))] ∧
      e.label = .sendData [2] ∧
      e.out.result = .sendData (.returned (.error (.connectionErrorIncoming
        (.internalError "internal error in the http stack")))) ∧
      ReportsConnectionError e := by
  have h0 := System.Run.start (S := sendSystem (σ := Nat) (β := Bytes) (δ := Bytes) SendContract)
    ⟨0, rfl⟩
  have h1 := h0.step (SendOp.sendData [1]) trivial
  have h2 := h1.step (SendOp.pollReady [.error (.stopped 7)]) (by intro e he; simp at he)
  obtain ⟨hpoll, hstate⟩ := SendStream.pollReady_stopped 1 0 7
  have hres := congrArg (SendRes.poll (δ := Bytes)) hpoll
  have h3 := h2.step (SendOp.sendData [2]) (by exact ⟨_, hres⟩)
  have hsend := congrArg (fun x => (SendStream.sendData x [2]).result) hstate
  exact ⟨_, _, _, h3, congrArg (fun r => [r, SendRes.sendData (.returned (.ok ()))]) hres, rfl,
    congrArg SendRes.sendData hsend, _, hsend⟩

end MsquicAsync.H3
