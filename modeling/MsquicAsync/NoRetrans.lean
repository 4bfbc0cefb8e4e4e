import MsquicAsync.Stream.Causes
import MsquicAsync.H3.Body

/-!
# Writes that are not retransmitted

A `_no_retrans` write hands MsQuic the flag CANCEL_ON_LOSS, and MsQuic cancels a
stream only after it has taken a send with that flag. So `CancelledOnLoss` is the
answer of a call only where such a write has been answered with a count before
(`cancelled_needs_no_retrans`). The adapters for HTTP/3 make none, and the
conversions of their errors never meet it (`H3.never_cancelled`).
-/

namespace MsquicAsync

open Runs Ranges System

variable {R ω : Type}

/-- A `_no_retrans` write. -/
def StreamOp.NoRetrans : StreamOp ω → Prop
  | pollWrite _ _ _ extraFlags _ _ | pollWriteChunk _ _ _ extraFlags _ _
  | pollWriteChunks _ _ _ extraFlags _ _ => extraFlags.cancelOnLoss = true
  | _ => False

def StreamLabel.NoRetrans : StreamLabel ω → Prop
  | call op => op.NoRetrans
  | event _ => False

/-- A send with CANCEL_ON_LOSS that MsQuic has taken. -/
def StreamCall.MayCancel : StreamCall → Prop
  | send _ flags _ (.ok ()) => flags.cancelOnLoss = true
  | _ => False

/-- MsQuic cancels a stream only if it has taken a send with CANCEL_ON_LOSS. -/
def CancelContract (tr : List (StreamStep R ω)) (l : StreamLabel ω) : Prop :=
  l.isCancelOnLoss = true → ∃ e ∈ tr, ∃ c ∈ e.out.calls, c.MayCancel

/-! ## Which write is behind a cancellation -/

theorem StreamLabel.NoRetrans.pieces {l : StreamLabel ω} (h : l.NoRetrans) : l.pieces? ≠ none := by
  cases l with
  | event => exact h.elim
  | call op =>
    cases op with
    | pollWrite | pollWriteChunk | pollWriteChunks => exact nofun
    | _ => exact h.elim

theorem StreamCall.MayCancel.sends {c : StreamCall} (h : c.MayCancel) {calls : List StreamCall}
    (hc : c ∈ calls) : MsquicAsync.sends calls ≠ [] := by
  cases c with
  | send buffers flags context result =>
    exact List.ne_nil_of_mem (List.mem_filterMap.mpr ⟨_, hc, rfl⟩)
  | _ => exact h.elim

theorem Stream.mayCancel_pollWriteGeneric [WillWake ω] {x : StreamInner R ω} {cx : ω}
    {extraFlags : SendFlags} {writeFn : WriteBuffer → WriteBuffer × WriteStatus Nat}
    {pieces : List Bytes} {fin : Bool} (hput : Puts writeFn pieces fin) {fresh : Nat}
    {native : NativeResult} {c : StreamCall}
    (hc : c ∈ (pollWriteGeneric x cx extraFlags writeFn fresh native).calls) (hm : c.MayCancel) :
    extraFlags.cancelOnLoss = true ∧
      (StreamRes.write (countWritten
        (pollWriteGeneric x cx extraFlags writeFn fresh native).result)).written? ≠ none := by
  unfold pollWriteGeneric at hc ⊢
  cases hs : x.sendState with
  | startComplete =>
    simp only [hs, sendWrite, hput.status, writeStatus] at hc ⊢
    cases native with
    | error e => cases fin <;> cases List.mem_singleton.mp hc <;> exact hm.elim
    | ok _ =>
      cases fin with
      | false =>
        cases List.mem_singleton.mp hc
        exact ⟨hm, Option.some_ne_none _⟩
      | true =>
        cases List.mem_singleton.mp hc
        exact ⟨hm, Option.some_ne_none _⟩
  | _ =>
    rw [hs] at hc
    cases hc

section

variable [RangeSet R] [WillWake ω] [StatusApi] {w : Nat} {s : StreamSys R ω}
  {tr : List (StreamStep R ω)} {ok : StreamContract R ω}

/-- **A send that may cancel the stream** is a `_no_retrans` write's. -/
theorem StreamSys.mayCancel_step {l : StreamLabel ω} {c : StreamCall}
    (hc : c ∈ (s.step w l).calls) (hm : c.MayCancel) :
    l.NoRetrans ∧ (s.step w l).result.written? ≠ none := by
  have hsends := hm.sends hc
  cases l with
  | event ev =>
    cases hcompletes : (StreamLabel.event ev : StreamLabel ω).completes? with
    | none => exact absurd (quiet_event hcompletes).sends hsends
    | some ptr =>
      cases ev with
      | sendComplete canceled clientContext =>
        simp only [step, dispatchEvent] at hc
        split at hc <;> cases hc
      | _ => cases hcompletes
  | call op =>
    cases op with
    | pollWrite cx buf fin =>
      exact Stream.mayCancel_pollWriteGeneric (Stream.puts_putSliceFn buf fin) hc hm
    | pollWriteChunk cx chunk fin =>
      exact Stream.mayCancel_pollWriteGeneric (Stream.puts_putChunkFn chunk fin) hc hm
    | pollWriteChunks cx chunks fin =>
      exact Stream.mayCancel_pollWriteGeneric (Stream.puts_putChunksFn chunks fin) hc hm
    | _ => exact absurd (quiet_call rfl).sends hsends

/-- A cancellation has a `_no_retrans` write before it that was answered with a count. -/
theorem noRetrans_of_cancel (h : (streamSystem w ok).Run tr s)
    (hok : ∀ e tr', e :: tr' <:+ tr → CancelContract tr' e.label) {e : StreamStep R ω}
    (he : e ∈ tr) (hcancel : e.label.isCancelOnLoss = true) :
    ∃ e' ∈ tr, e'.label.NoRetrans ∧ e'.out.result.written? ≠ none := by
  obtain ⟨later, before, rfl⟩ := List.append_of_mem he
  obtain ⟨e', he', c, hc, hm⟩ := hok e before ⟨later, rfl⟩ hcancel
  have hmem : e' ∈ later ++ e :: before :=
    List.mem_append_right _ (List.mem_cons_of_mem _ he')
  obtain ⟨-, -, -, hstep⟩ := h.of_mem hmem
  refine ⟨e', hmem, ?_⟩
  rw [hstep] at hc ⊢
  exact StreamSys.mayCancel_step hc hm

/-- **A call answers with CancelledOnLoss only** behind a `_no_retrans` write that was answered
with a count. -/
theorem cancelled_needs_no_retrans (h : (streamSystem w ok).Run tr s)
    (hok : ∀ e tr', e :: tr' <:+ tr → CancelContract tr' e.label) (op : StreamOp ω)
    (hc : (s.call w op).result.cause? = some .cancelledOnLoss) :
    ∃ e ∈ tr, e.label.NoRetrans ∧ e.out.result.written? ≠ none := by
  obtain ⟨-, e, he, hcancel⟩ := (causesRecorded_run h).call op hc
  exact noRetrans_of_cancel h hok he hcancel

end

/-- A write that is not retransmitted is lost, and the finish behind it says so. -/
theorem cancelled_needs_no_retrans_lost :
    ∃ (tr : List (StreamStep Coalesced Nat)) (s : StreamSys Coalesced Nat),
      (streamSystem 64 fun tr _ l => CancelContract tr l).Run tr s ∧
      tr.map Step.label = [.event (.sendShutdownComplete false), .event (.cancelOnLoss 0),
        .call (.pollWrite 7 [1, 2] false .CANCEL_ON_LOSS 1 (.ok ()))] ∧
      (s.call 64 (.pollFinishWrite 7 (.ok ()))).result.cause? = some .cancelledOnLoss ∧
      ∃ e ∈ tr, e.label.NoRetrans ∧ e.out.result.written? ≠ none := by
  have h0 := System.Run.start (S := streamSystem (R := Coalesced) (ω := Nat) 64
    fun tr _ l => CancelContract tr l) (.fromRaw .bidirectional)
  have h3 := ((h0.step (.call (.pollWrite 7 [1, 2] false .CANCEL_ON_LOSS 1 (.ok ()))) nofun).step
    (.event (.cancelOnLoss 0)) fun _ => ⟨_, List.mem_cons_self, _, List.mem_cons_self, rfl⟩).step
    (.event (.sendShutdownComplete false)) nofun
  exact ⟨_, _, h3, rfl, rfl, cancelled_needs_no_retrans h3
    (fun e tr' hsuf => (h3.of_suffix hsuf).2.1) (.pollFinishWrite 7 (.ok ())) rfl⟩

/-! ## The adapters for HTTP/3 -/

namespace H3

/-! ### What the conversions box -/

section

variable {ε : Type}

theorem map_ready_error {α : Type} {o : Outcome ε} {e : ε}
    (h : (o.map fun e => (Poll.ready (Except.error e) : Poll (Except ε α))) =
      .returned (.ready (.error e))) : o = .returned e := by
  cases o with
  | returned e' =>
    cases h
    rfl
  | panicked => cases h

theorem map_connectionErrorIncoming_ne {o : Outcome ConnectionErrorIncoming} {e : ε} :
    o.map (StreamErrorIncoming.connectionErrorIncoming (ε := ε)) ≠ .returned (.unknown e) := by
  cases o with
  | returned => exact nofun
  | panicked => exact nofun

variable [StatusApi]

theorem convertReadError_cancelled {e : ReadError}
    (h : convertReadError e = .returned (.unknown .cancelledOnLoss)) : e = .cancelledOnLoss := by
  cases e with
  | connectionLost connectionError => exact absurd h map_connectionErrorIncoming_ne
  | cancelledOnLoss => rfl
  | _ => cases h

theorem convertWriteError_cancelled {e : WriteError}
    (h : convertWriteError e = .returned (.unknown .cancelledOnLoss)) : e = .cancelledOnLoss := by
  cases e with
  | connectionLost connectionError => exact absurd h map_connectionErrorIncoming_ne
  | cancelledOnLoss => rfl
  | _ => cases h

theorem SendStream.pollReadyLoop_cancelled {σ β : Type} [Buf β] {x : SendStream σ β} {data : β}
    {answers : List (Except WriteError Nat)}
    (h : (x.pollReadyLoop data answers).result =
      .returned (.ready (.error (.unknown .cancelledOnLoss)))) :
    .error .cancelledOnLoss ∈ answers := by
  induction answers generalizing x data with
  | nil =>
    unfold pollReadyLoop at h
    simp only at h
    split at h
    · cases h
    · split at h <;> cases h
  | cons answer answers ih =>
    unfold pollReadyLoop at h
    simp only at h
    split at h
    · cases h
    · split at h
      · cases h
      · cases h
      · cases answer with
        | error e =>
          obtain rfl := convertWriteError_cancelled (map_ready_error h)
          exact List.mem_cons_self
        | ok cnt =>
          simp only at h
          split at h
          · cases h
          · exact List.mem_cons_of_mem _ (ih h)

theorem SendStream.pollSend_cancelled {σ β δ : Type} [Buf β] [Buf δ] {x : SendStream σ β}
    {buf rest : δ} {answer : Poll (Except WriteError Nat)}
    (h : (x.pollSend buf answer).result =
      .returned (.ready (.error (.unknown .cancelledOnLoss)), rest)) :
    answer = .ready (.error .cancelledOnLoss) := by
  unfold pollSend at h
  split at h
  · cases h
  · cases hs : x.stream with
    | none =>
      rw [hs] at h
      cases h
    | some stream =>
      simp only [hs] at h
      cases answer with
      | pending => cases h
      | ready res =>
        cases res with
        | ok written =>
          simp only at h
          split at h <;> cases h
        | error e =>
          simp only at h
          cases hc : convertWriteError e with
          | panicked => rw [hc] at h; cases h
          | returned e' =>
            rw [hc] at h
            cases h
            rw [convertWriteError_cancelled hc]

theorem SendStream.pollFinish_cancelled {σ β : Type} {x : SendStream σ β}
    {answer : Poll (Except WriteError Unit)}
    (h : (x.pollFinish answer).result = .returned (.ready (.error (.unknown .cancelledOnLoss)))) :
    answer = .ready (.error .cancelledOnLoss) := by
  unfold pollFinish at h
  cases hs : x.stream with
  | none =>
    rw [hs] at h
    cases h
  | some stream =>
    simp only [hs] at h
    cases answer with
    | pending => cases h
    | ready res =>
      cases res with
      | ok => cases h
      | error e => rw [convertWriteError_cancelled (map_ready_error h)]

theorem RecvStream.pollData_cancelled {σ : Type} {y : RecvStream σ}
    {answer : Poll (Except ReadError (Option StreamRecvBuffer))}
    (h : (y.pollData answer).result = .returned (.ready (.error (.unknown .cancelledOnLoss)))) :
    answer = .ready (.error .cancelledOnLoss) := by
  unfold pollData at h
  simp only at h
  split at h
  · cases h
  · cases h
  · cases answer with
    | pending => cases h
    | ready res =>
      cases res with
      | ok => cases h
      | error e => rw [convertReadError_cancelled (map_ready_error h)]

end

/-! ### What their stream answers -/

section

variable {β : Type} [RangeSet R] [WillWake ω] [StatusApi] [Buf β] [LawfulBuf β] {w : Nat}
  {given : Bytes} {x : SendStream Unit β} {tr tr' : List (StreamStep R ω)} {s s' : StreamSys R ω}
  {calls : List (StreamUse Unit)} {answers : List (Except WriteError Nat)}

theorem Serves.forall_label {P : StreamLabel ω → Prop} (h : Serves w tr s calls answers tr' s')
    (hwrite : ∀ cx chunk fresh native, P (write cx chunk fresh native))
    (hp : ∀ e ∈ tr, P e.label) : ∀ e ∈ tr', P e.label := by
  induction h with
  | nil => exact hp
  | pending => exact List.forall_mem_cons.mpr ⟨hwrite _ _ _ _, hp⟩
  | answer _ _ _ _ _ _ _ ih => exact ih (List.forall_mem_cons.mpr ⟨hwrite _ _ _ _, hp⟩)

theorem Sending.not_noRetrans (h : Sending w given x tr s) : ∀ e ∈ tr, ¬ e.label.NoRetrans := by
  induction h with
  | new => exact List.forall_mem_nil _
  | other l _ hl ih => exact List.forall_mem_cons.mpr ⟨fun hn => hn.pieces hl, ih⟩
  | sendData _ _ _ ih | refused _ _ _ ih => exact ih
  | pollReady _ hs ih | pollSend _ _ _ hs ih =>
    exact hs.forall_label (P := fun l => ¬ l.NoRetrans) (fun _ _ _ _ => Bool.noConfusion) ih

omit [Buf β] [LawfulBuf β] in
theorem cause_ne {ok : StreamContract R ω} (h : (streamSystem w ok).Run tr s)
    (hplain : ∀ e ∈ tr, e.label.isCancelOnLoss = false) (op : StreamOp ω) :
    (s.call w op).result.cause? ≠ some .cancelledOnLoss := by
  intro hc
  obtain ⟨-, e, he, hcancel⟩ := (causesRecorded_run h).call op hc
  exact absurd hcancel (by rw [hplain e he]; exact Bool.noConfusion)

theorem Serves.answers_ne (h : Serves w tr s calls answers tr' s')
    (hrun : (streamSystem w fun _ _ _ => True).Run tr s)
    (hplain : ∀ e ∈ tr, e.label.isCancelOnLoss = false) : .error .cancelledOnLoss ∉ answers := by
  induction h with
  | nil | pending => exact List.not_mem_nil
  | @answer tr tr' s s' calls answers cx chunk fresh native a h hrest ih =>
    have hrun' := hrun.step (write cx chunk fresh native) trivial
    have hrest' := ih hrun' (List.forall_mem_cons.mpr ⟨rfl, hplain⟩)
    intro hmem
    rcases List.mem_cons.mp hmem with rfl | hmem
    · refine cause_ne hrun hplain (.pollWrite cx chunk false .NONE fresh native) ?_
      rw [show s.call w _ = s.step w (write cx chunk fresh native) from rfl, h]
      rfl
    · exact hrest' hmem

/-- **`CancelledOnLoss` cannot reach the conversions**: no poll of a stream on which the adapter
makes the writes answers with it. -/
theorem never_cancelled {ok : StreamContract R ω} (h : Sending w given x tr s)
    (hrun : (streamSystem w ok).Run tr s)
    (hok : ∀ e tr', e :: tr' <:+ tr → CancelContract tr' e.label) :
    (∀ answers tr' s', Serves w tr s (x.pollReady answers).calls answers tr' s' →
      (x.pollReady answers).result ≠ .returned (.ready (.error (.unknown .cancelledOnLoss)))) ∧
    (∀ (δ : Type) [Buf δ] (buf rest : δ) answer tr' s',
      Serves w tr s (x.pollSend buf answer).calls answer.answers tr' s' →
      (x.pollSend buf answer).result ≠
        .returned (.ready (.error (.unknown .cancelledOnLoss)), rest)) ∧
    (∀ cx native answer, (s.call w (.pollFinishWrite cx native)).result = .finishWrite answer →
      (x.pollFinish answer).result ≠
        .returned (.ready (.error (.unknown .cancelledOnLoss)))) ∧
    (∀ (y : RecvStream Unit) cx answer,
      (s.call w (.pollReadChunk cx)).result = .readChunk answer →
      (y.pollData answer).result ≠
        .returned (.ready (.error (.unknown .cancelledOnLoss)))) := by
  have hplain : ∀ e ∈ tr, e.label.isCancelOnLoss = false := by
    intro e he
    refine eq_false_of_ne_true fun hcancel => ?_
    obtain ⟨e', he', hn, -⟩ := noRetrans_of_cancel hrun hok he hcancel
    exact h.not_noRetrans e' he' hn
  have hrun' : (streamSystem w fun _ _ _ => True).Run tr s :=
    hrun.mono (fun _ h0 => h0) (fun _ _ _ _ => trivial) rfl
  refine ⟨fun answers tr' s' hs hr => ?_, fun δ _ buf rest answer tr' s' hs hr => ?_,
    fun cx native answer ha hr => ?_, fun y cx answer ha hr => ?_⟩
  · refine hs.answers_ne hrun' hplain ?_
    unfold SendStream.pollReady at hr
    split at hr
    · exact SendStream.pollReadyLoop_cancelled hr
    · cases hr
  · refine hs.answers_ne hrun' hplain ?_
    rw [SendStream.pollSend_cancelled hr]
    exact List.mem_singleton_self _
  · refine cause_ne hrun hplain (.pollFinishWrite cx native) ?_
    rw [ha, SendStream.pollFinish_cancelled hr]
    rfl
  · refine cause_ne hrun hplain (.pollReadChunk cx) ?_
    rw [ha, RecvStream.pollData_cancelled hr]
    rfl

end

/-- Two bytes are sent, the connection is lost, and `poll_finish` does not box what it answers. -/
theorem never_cancelled_lost :
    ∃ (tr : List (StreamStep Coalesced Nat)) (s : StreamSys Coalesced Nat)
      (x : SendStream Unit Bytes),
      Sending 64 [1, 2] x tr s ∧ (streamSystem 64 WriterContract).Run tr s ∧
      tr.map Step.label =
        [.event (.shutdownComplete true false false true 5 0), write 7 [1, 2] 1 (.ok ())] ∧
      ∀ answer, (s.call 64 (.pollFinishWrite 7 (.ok ()))).result = .finishWrite answer →
        (x.pollFinish answer).result ≠
          .returned (.ready (.error (.unknown .cancelledOnLoss))) := by
  have h0 := System.Run.start
    (S := streamSystem (R := Coalesced) (ω := Nat) 64 WriterContract) (.fromRaw .bidirectional)
  have x0 : Sending (β := Bytes) 64 [] (.new ()) [] _ :=
    .new (R := Coalesced) (ω := Nat) (.fromRaw .bidirectional)
  have h1 := h0.step (write 7 [1, 2] 1 (.ok ()))
    (writerContract_of (sendOrder_of id fun h => by cases h) rfl fun _ hp =>
      Option.some.inj hp ▸ by decide)
  have x1 := x0.sendBytes (b := [1, 2]) nofun 7 1 (.ok ()) rfl
  have h2 := h1.step (.event (.shutdownComplete true false false true 5 0))
    (writerContract_of (sendOrder_of id id) rfl nofun)
  have x2 := x1.other (.event (.shutdownComplete true false false true 5 0)) rfl
  have hnever := (never_cancelled x2 h2 (by
    refine forall_suffix_cons.mpr ⟨nofun, forall_suffix_cons.mpr ⟨nofun, forall_suffix_nil⟩⟩)).2.2.1
  exact ⟨_, _, _, x2, h2, rfl, fun answer ha => hnever 7 (.ok ()) answer ha⟩

end H3

end MsquicAsync
