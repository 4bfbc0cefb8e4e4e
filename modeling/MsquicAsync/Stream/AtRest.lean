import MsquicAsync.Stream.SendCalls

/-!
# A stream that is torn down is at rest

ShutdownComplete is the last event of a stream. Its callback leaves both
directions shut down, and from then on nothing but the account of what was
received can change: a call asks MsQuic nothing, parks nobody, wakes nobody and
ends at once, each time in the same way. Only `poll_start` ends in a panic, where
nothing explains why the start failed.
-/

namespace MsquicAsync

open Runs Ranges

variable {R ω : Type}

/-- Both directions are shut down, and so is the stream. -/
structure StreamInner.AtRest (x : StreamInner R ω) : Prop where
  state : x.state = .shutdownComplete
  recvState : x.recvState = .shutdownComplete
  sendState : x.sendState = .shutdownComplete

/-- The call has parked its task. -/
def StreamRes.Pending : StreamRes → Prop
  | start r => r = .returned .pending
  | read r => r = .pending
  | readChunk r => r = .pending
  | write r => r = .returned .pending
  | finishWrite r | pollAbortWrite r => r = .pending
  | pollAbortRead r => r = .pending
  | _ => False

def StreamRes.Panics : StreamRes → Prop
  | start r => r.Panics
  | write r => r.Panics
  | panicked _ => True
  | _ => False

/-- The stream has been torn down. -/
def TornDown (tr : List (StreamStep R ω)) : Prop := ∃ e ∈ tr, e.label.IsShutdownComplete

/-- MsQuic raises nothing on the stream after ShutdownComplete. -/
def ShutdownCompleteLast (tr : List (StreamStep R ω)) (_ : StreamSys R ω) (l : StreamLabel ω) :
    Prop :=
  TornDown tr → ∃ op, l = .call op

/-! ## One call -/

section

variable {x y z : StreamInner R ω} {s t : StreamSys R ω}

/-- Equal but for the account of what was received. -/
def StreamInner.SameButAccount (x y : StreamInner R ω) : Prop :=
  ∃ map cursor, y = { x with readCompleteMap := map, readCompleteCursor := cursor }

theorem StreamInner.SameButAccount.refl (x : StreamInner R ω) : x.SameButAccount x :=
  ⟨x.readCompleteMap, x.readCompleteCursor, rfl⟩

theorem StreamInner.SameButAccount.trans (h : x.SameButAccount y)
    (h' : y.SameButAccount z) : x.SameButAccount z := by
  obtain ⟨_, _, rfl⟩ := h
  obtain ⟨map, cursor, rfl⟩ := h'
  exact ⟨map, cursor, rfl⟩

theorem StreamInner.AtRest.account (h : x.AtRest)
    (hy : x.SameButAccount y) : y.AtRest := by
  obtain ⟨_, _, rfl⟩ := hy
  exact ⟨h.state, h.recvState, h.sendState⟩

theorem Stream.pollReadGeneric_atRest [WillWake ω] {α : Type} (h : x.AtRest) (cx : ω)
    (readFn : List StreamRecvBuffer → ReadFn α) :
    pollReadGeneric x cx readFn =
      { state := x, result := ⟨.ready (readShutdownComplete x), []⟩ } := by
  unfold pollReadGeneric
  rw [h.recvState]

theorem Stream.pollWriteGeneric_atRest [WillWake ω] {α : Type} (h : x.AtRest) (cx : ω)
    (extraFlags : SendFlags) (writeFn : WriteBuffer → WriteBuffer × WriteStatus α) (fresh : Nat)
    (native : NativeResult) :
    pollWriteGeneric x cx extraFlags writeFn fresh native =
      { state := x
        result := .returned (.ready (writeShutdownComplete x (.error .finished))) } := by
  unfold pollWriteGeneric
  rw [h.sendState]

theorem Stream.shutdownSend_atRest [WillWake ω] (h : x.AtRest) (cx : ω)
    (flags : StreamShutdownFlags) (errorCode : UInt64) (native : NativeResult)
    (done : Except WriteError Unit) :
    shutdownSend x cx flags errorCode native done = { state := x, result := .ready done } := by
  unfold shutdownSend
  rw [h.sendState]

theorem Stream.handedChunk_shutdownComplete (x : StreamInner R ω) :
    handedChunk (.ready (readShutdownComplete x)) = [] := by
  unfold readShutdownComplete
  repeat' split
  all_goals rfl

/-- A call that has only answered. -/
structure StreamSys.Answered (s : StreamSys R ω)
    (out : Ran (StreamSys R ω) ω StreamCall StreamRes) : Prop where
  state : out.state = s
  calls : out.calls = []
  woken : out.woken = []
  result : ¬ out.result.Pending

theorem StreamSys.answered_after {ρ : Type} {g : ρ → StreamRes} {r : ρ} (hg : ¬ (g r).Pending) :
    s.Answered (s.after { state := s.inner, result := r } g) where
  state := by
    show { s with native := s.native ++ [] } = s
    rw [List.append_nil]
  calls := rfl
  woken := rfl
  result := hg

theorem StreamSys.answered_afterRead {α : Type} {r : Except ReadError α}
    {chunk : Poll (Except ReadError α) → List StreamRecvBuffer}
    {g : Poll (Except ReadError α) → StreamRes} (hc : chunk (.ready r) = [])
    (hg : ¬ (g (.ready r)).Pending) :
    s.Answered (s.afterRead { state := s.inner, result := ⟨.ready r, []⟩ } chunk g) where
  state := by
    show { s with held := s.held ++ [] ++ chunk (.ready r) } = s
    rw [hc, List.append_nil, List.append_nil]
  calls := rfl
  woken := rfl
  result := hg

variable [RangeSet R] [WillWake ω] [StatusApi] {w : Nat}

theorem StreamSys.call_atRest (h : s.inner.AtRest) {op : StreamOp ω} (hop : ¬ op.IsHeld) :
    s.Answered (s.call w op) := by
  cases op with
  | pollStart cx failedOnBlock native =>
    simp only [call, Stream.pollStart, h.state]
    split
    · exact answered_after fun hp => by cases hp
    split
    · exact answered_after fun hp => by cases hp
    split
    case h_3 | h_4 =>
      refine answered_after ?_
      cases s.inner.connError <;> exact fun hp => by cases hp
    all_goals exact answered_after fun hp => by cases hp
  | pollRead cx len =>
    simp only [call, Stream.pollRead, Stream.pollReadGeneric_atRest h]
    exact answered_afterRead rfl fun hp => by cases hp
  | pollReadBuf cx remaining =>
    simp only [call, Stream.pollReadBuf, Stream.pollReadGeneric_atRest h]
    split <;> exact answered_afterRead rfl fun hp => by cases hp
  | pollReadChunk cx =>
    simp only [call, Stream.pollReadChunk, Stream.pollReadGeneric_atRest h]
    exact answered_afterRead (Stream.handedChunk_shutdownComplete _) fun hp => by cases hp
  | pollWrite | pollWriteChunk | pollWriteChunks =>
    simp only [call, Stream.pollWrite, Stream.pollWriteChunk, Stream.pollWriteChunks,
      Stream.pollWriteGeneric_atRest h]
    exact answered_after fun hp => by cases hp
  | pollFinishWrite | pollAbortWrite =>
    simp only [call, Stream.pollFinishWrite, Stream.pollAbortWrite, Stream.shutdownSend_atRest h]
    exact answered_after fun hp => by cases hp
  | abortWrite errorCode native =>
    simp only [call, Stream.abortWrite, h.sendState]
    exact answered_after id
  | pollAbortRead cx errorCode native =>
    simp only [call, Stream.pollAbortRead, h.recvState]
    split
    · exact answered_after fun hp => by cases hp
    split <;> exact answered_after fun hp => by cases hp
  | abortRead errorCode native =>
    simp only [call, Stream.abortRead, h.recvState]
    exact answered_after id
  | _ => exact absurd trivial hop

theorem StreamSys.call_panics_iff (h : s.inner.AtRest) {op : StreamOp ω} (hop : ¬ op.IsHeld) :
    (s.call w op).result.Panics ↔
      (∃ cx failedOnBlock native, op = .pollStart cx failedOnBlock native) ∧
        s.inner.Unexplained := by
  cases op with
  | pollStart cx failedOnBlock native =>
    have hstart := Stream.pollStart_panics_iff (x := s.inner) (by simp [h.state])
      (by simp [h.state]) cx failedOnBlock native
    exact hstart.trans ⟨fun hu => ⟨⟨_, _, _, rfl⟩, hu⟩, And.right⟩
  | pollWrite | pollWriteChunk | pollWriteChunks =>
    simp only [call, Stream.pollWrite, Stream.pollWriteChunk, Stream.pollWriteChunks,
      Stream.pollWriteGeneric_atRest h]
    refine iff_of_false id ?_
    rintro ⟨⟨_, _, _, hp⟩, -⟩
    cases hp
  | dropRecvBuffer | advance | getBytesUptoSize => exact absurd trivial hop
  | _ =>
    refine iff_of_false id ?_
    rintro ⟨⟨_, _, _, hp⟩, -⟩
    cases hp

theorem StreamSys.call_account (h : s.inner.AtRest) (ht : s.inner.SameButAccount t.inner)
    {op : StreamOp ω} (hop : ¬ op.IsHeld) :
    (t.call w op).result = (s.call w op).result := by
  have ht' := h.account ht
  obtain ⟨map, cursor, hi⟩ := ht
  cases op with
  | pollStart cx failedOnBlock native =>
    simp only [call, Stream.pollStart, h.state, ht'.state]
    rw [hi]
    cases s.inner.startStatus with
    | none => rfl
    | some status =>
      by_cases hok : StatusApi.isOk status = true
      · simp only [hok, if_true, after_result]
      · simp only [hok, Bool.false_eq_true, if_false, after_result]
        cases StatusApi.tryAsStatusCode status with
        | none => rfl
        | some code => cases code <;> rfl
  | pollRead | pollReadChunk =>
    simp only [call, Stream.pollRead, Stream.pollReadChunk, Stream.pollReadGeneric_atRest h,
      Stream.pollReadGeneric_atRest ht']
    rw [hi]
    rfl
  | pollReadBuf cx remaining =>
    simp only [call, Stream.pollReadBuf, Stream.pollReadGeneric_atRest h,
      Stream.pollReadGeneric_atRest ht']
    rw [hi]
    split <;> rfl
  | pollWrite | pollWriteChunk | pollWriteChunks =>
    simp only [call, Stream.pollWrite, Stream.pollWriteChunk, Stream.pollWriteChunks,
      Stream.pollWriteGeneric_atRest h, Stream.pollWriteGeneric_atRest ht']
    rw [hi]
    rfl
  | pollFinishWrite | pollAbortWrite =>
    simp only [call, Stream.pollFinishWrite, Stream.pollAbortWrite, Stream.shutdownSend_atRest h,
      Stream.shutdownSend_atRest ht']
    rw [hi]
    rfl
  | abortWrite errorCode native =>
    simp only [call, Stream.abortWrite, h.sendState, ht'.sendState]
    rfl
  | pollAbortRead cx errorCode native =>
    simp only [call, Stream.pollAbortRead, h.recvState, ht'.recvState]
    rw [hi]
    cases s.inner.connError <;> cases s.inner.recvErrorCode <;> rfl
  | abortRead errorCode native =>
    simp only [call, Stream.abortRead, h.recvState, ht'.recvState]
    rfl
  | _ => exact absurd trivial hop

theorem StreamSys.call_sameButAccount (h : s.inner.AtRest) (op : StreamOp ω) :
    s.inner.SameButAccount (s.call w op).state.inner := by
  by_cases hop : op.IsHeld
  · exact call_held hop
  · rw [(call_atRest h hop).state]
    exact .refl _

end

/-! ## Over a run -/

section

variable {tr : List (StreamStep R ω)}

theorem TornDown.cons_iff {e : StreamStep R ω} :
    TornDown (e :: tr) ↔ e.label.IsShutdownComplete ∨ TornDown tr := by
  simp [TornDown]

variable [RangeSet R] [WillWake ω] [StatusApi] {w : Nat} {s : StreamSys R ω}

/-- Only ShutdownComplete tears a stream down, and a torn-down stream is at rest. -/
theorem atRest_run (h : (streamSystem w ShutdownCompleteLast).Run tr s) :
    (s.inner.state = .shutdownComplete → TornDown tr) ∧ (TornDown tr → s.inner.AtRest) := by
  refine h.invariant (I := fun tr s => (s.inner.state = .shutdownComplete → TornDown tr) ∧
    (TornDown tr → s.inner.AtRest)) (fun s hi => ?_) fun tr s l hr hok ih => ?_
  · refine ⟨fun hs => ?_, fun ht => ?_⟩
    · cases hi <;> cases hs
    · obtain ⟨_, he, -⟩ := ht
      cases he
  obtain ⟨hdown, hrest⟩ := ih
  have hsend := StreamSys.step_send (w := w) (s := s) l
  rw [TornDown.cons_iff]
  cases l with
  | call op =>
    refine ⟨fun hs => .inr (hdown ?_), fun ht => ?_⟩
    · rcases hsend.of_call with ⟨ha, -⟩ | ⟨ha, -⟩ | ⟨ha, -⟩
      · exact ha.symm.trans hs
      · exact absurd (ha.symm.trans hs) fun h => by cases h
      · exact ha.symm.trans hs
    · have hx := hrest (ht.resolve_left id)
      exact hx.account (StreamSys.call_sameButAccount hx op)
  | event ev =>
    have hnot : ¬ TornDown tr := fun ht => by
      obtain ⟨_, hl⟩ := hok ht
      cases hl
    have hs : s.inner.state ≠ .shutdownComplete := mt hdown hnot
    refine ⟨fun hs' => ?_, fun ht => ?_⟩
    · rcases hsend.of_event with ha | ⟨ha, -⟩ | ⟨-, hsc⟩
      · exact absurd (ha.symm.trans hs') hs
      · exact absurd (ha.symm.trans hs') fun h => by cases h
      · exact .inl hsc
    · cases ev with
      | shutdownComplete cs ac ba cr ec st =>
        obtain ⟨map, cursor, hy⟩ := Stream.handleEventShutdownComplete_frame (w := w) hs cs ac ba cr
          ec st
        show (Stream.handleEventShutdownComplete w s.inner cs ac ba cr ec st).state.AtRest
        rw [hy]
        exact ⟨rfl, rfl, rfl⟩
      | _ => exact absurd (ht.resolve_left id) hnot

/-- **A stream that is torn down is at rest** for the rest of its run: only the account of what was
received changes, and every call that is not on a held buffer is a question with one answer, or
the `poll_start` of an unexplained start, which panics. -/
theorem torn_down_at_rest (h : (streamSystem w ShutdownCompleteLast).Run tr s)
    {e : StreamStep R ω} {tr' : List (StreamStep R ω)} (he : e :: tr' <:+ tr)
    (hdown : TornDown tr') :
    e.pre.inner.SameButAccount s.inner ∧
      ∀ op, e.label = .call op → ¬ op.IsHeld → e.post = e.pre ∧ e.out.calls = [] ∧
        e.out.woken = [] ∧ ¬ e.out.result.Pending ∧
        (e.out.result.Panics ↔
          (∃ cx failedOnBlock native, op = .pollStart cx failedOnBlock native) ∧
            e.pre.inner.Unexplained) ∧
        (s.call w op).result = e.out.result := by
  obtain ⟨hr, hok, heq⟩ := h.of_suffix he
  have hrest := (atRest_run hr).2 hdown
  obtain ⟨op, hl⟩ := hok hdown
  rw [hl] at heq
  have hsame : TornDown tr ∧ e.pre.inner.SameButAccount s.inner := by
    refine h.invariant_after (I := fun tr s => TornDown tr ∧ e.pre.inner.SameButAccount s.inner) he
      ⟨TornDown.cons_iff.mpr (.inr hdown), ?_⟩ fun tr s l hr hok ih => ?_
    · rw [heq]
      exact StreamSys.call_sameButAccount hrest op
    · obtain ⟨op, rfl⟩ := hok ih.1
      exact ⟨TornDown.cons_iff.mpr (.inr ih.1),
        ih.2.trans (StreamSys.call_sameButAccount ((atRest_run hr).2 ih.1) op)⟩
  refine ⟨hsame.2, fun op' hl' hop => ?_⟩
  obtain rfl : op = op' := by
    rw [hl] at hl'
    exact StreamLabel.call.inj hl'
  have hcall := StreamSys.call_atRest (w := w) hrest hop
  have hresult := StreamSys.call_account (w := w) hrest hsame.2 hop
  have hpanics := StreamSys.call_panics_iff (w := w) hrest hop
  rw [heq]
  exact ⟨hcall.state, hcall.calls, hcall.woken, hcall.result, hpanics, hresult⟩

end

/-- A reset stream is torn down and answers a read with the reset, behind a finish as well. -/
theorem torn_down_at_rest_reset :
    ∃ (tr : List (StreamStep Coalesced Nat)) (s : StreamSys Coalesced Nat),
      (streamSystem 64 ShutdownCompleteLast).Run tr s ∧
      tr.map Step.label =
        [.call (.pollFinishWrite 8 (.ok ())), .call (.pollRead 7 4),
          .event (.shutdownComplete false false false false 0 0), .event (.peerSendAborted 5)] ∧
      (s.call 64 (.pollRead 7 4)).result = .read (.ready (.error (.reset 5))) := by
  have h0 := System.Run.start
    (S := streamSystem (R := Coalesced) (ω := Nat) 64 ShutdownCompleteLast)
    (.fromRaw .bidirectional)
  have h1 := h0.step (.event (.peerSendAborted 5)) (by
    rintro ⟨_, he, -⟩
    cases he)
  have h2 := h1.step (.event (.shutdownComplete false false false false 0 0)) (by
    intro ht
    rcases TornDown.cons_iff.mp ht with h | ⟨_, he, -⟩
    · exact h.elim
    · cases he)
  have h4 := (h2.step (.call (.pollRead 7 4)) fun _ => ⟨_, rfl⟩).step
    (.call (.pollFinishWrite 8 (.ok ()))) fun _ => ⟨_, rfl⟩
  exact ⟨_, _, h4, rfl, ((torn_down_at_rest h4 (List.suffix_cons _ _)
    (TornDown.cons_iff.mpr (.inl trivial))).2 _ rfl id).2.2.2.2.2.trans rfl⟩

end MsquicAsync
