import MsquicAsync.Stream.ReadEffect

/-!
# Who waits to read

A waker is parked in `read_waiters` only while the queue is empty and the
receive side has not ended (`Parked`). Every step preserves that but one:
`abort_read` ends the receive side and wakes nobody, unlike `poll_abort_read`.
So no reader is ever parked beside something to read, exactly when no successful
`abort_read` meets a parked one.
-/

namespace MsquicAsync

open Runs Ranges Loops

variable {R ω : Type}

/-- The read has answered. -/
def StreamRes.Ready : StreamRes → Prop
  | read (.ready _) | readChunk (.ready _) => True
  | _ => False

/-- The read has ended the receive side without a poll: a successful `abort_read`. -/
def StreamLabel.AbortsRead : StreamLabel ω → Prop
  | .call (.abortRead _ (.ok ())) => True
  | _ => False

/-- Who is parked waits for a receive side that has not ended and has nothing queued. -/
def StreamInner.Parked (x : StreamInner R ω) : Prop :=
  x.readWaiters ≠ [] →
    x.recvBuffers = [] ∧ (x.recvState = .start ∨ x.recvState = .startComplete)

section

variable {x y : StreamInner R ω}

theorem StreamInner.Parked.keep (h : x.Parked) (hq : y.recvBuffers = x.recvBuffers)
    (hw : y.readWaiters = x.readWaiters)
    (hr : y.recvState = x.recvState ∨ y.recvState = .start ∨ y.recvState = .startComplete) :
    y.Parked := by
  intro hne
  rw [hw] at hne
  obtain ⟨he, hs⟩ := h hne
  refine ⟨hq.trans he, ?_⟩
  rcases hr with hr | hr
  · rwa [hr]
  · exact hr

theorem parked_of_nil (h : y.readWaiters = []) : y.Parked := fun hne => absurd h hne

theorem StreamInner.Parked.sendSide {calls : List StreamCall} (h : x.Parked)
    (hs : SendSide x y calls) : y.Parked := by
  obtain ⟨_, _, _, _, rfl⟩ := hs.frame
  exact h

theorem StreamInner.Parked.startSide {calls : List StreamCall} (h : x.Parked)
    (hs : StartSide x y calls) : y.Parked := by
  obtain ⟨_, _, _, _, _, _, hy⟩ := hs.frame
  refine h.keep (congrArg (fun y => y.recvBuffers) hy) (congrArg (fun y => y.readWaiters) hy) ?_
  rcases hs.states with ⟨-, hr, -⟩ | ⟨-, hr, -⟩ | ⟨-, hr, -⟩
  · exact .inl hr
  · exact hr.imp id .inl
  · exact hr.imp id .inr

/-- A reader only parks after it has emptied the queue. -/
theorem StreamInner.Parked.readEffect {popped : List StreamRecvBuffer} {out : Bytes}
    {calls : List StreamCall} (h : x.Parked) (he : ReadEffect x y popped out calls) :
    y.Parked := by
  rcases he.readWaiters with hw | ⟨hs, hq⟩
  · intro hne
    rw [hw] at hne
    obtain ⟨hq, hs⟩ := h hne
    have hnil : popped ++ y.recvBuffers = [] := by
      have := he.rewound
      rw [hq] at this
      exact List.map_eq_nil_iff.mp this.symm
    obtain ⟨rfl, hy⟩ := List.append_eq_nil_iff.mp hnil
    refine ⟨hy, ?_⟩
    rcases he.recvState with hr | ⟨-, -, b, hb, -⟩
    · rwa [hr]
    · cases hb
  · exact fun _ => ⟨hq, .inr hs⟩

theorem StreamInner.Parked.pollAbortRead [WillWake ω] {cx : ω} {errorCode : UInt64}
    {native : NativeResult} (h : x.Parked) :
    (Stream.pollAbortRead x cx errorCode native).state.Parked := by
  unfold Stream.pollAbortRead
  split
  · exact h
  · cases native with
    | ok _ => exact parked_of_nil rfl
    | error _ => exact h
  · split
    · exact h
    · split <;> exact h
  · exact h

theorem readLoop_run_nil {n : Nat} {got : ReadLoop n → Bool} (hn : 0 < n)
    (hgot : got (.start n []) = false) :
    (readLoop n got).run (.start n []) = ⟨.blocked none, [], []⟩ := by
  have hb : ReadLoop.body got (.start n []) = .inr ⟨.blocked none, [], []⟩ := by
    have h0 : ¬ (ReadLoop.start n []).read.length = n := by
      show ¬ 0 = n
      omega
    simp only [ReadLoop.body, h0, if_false, hgot]
    rfl
  have hl : (readLoop n got).body = ReadLoop.body got := rfl
  rw [Loop.run_eq, hl, hb]

theorem Stream.pollReadGeneric_pending [WillWake ω] {α : Type} (cx : ω)
    (readFn : List StreamRecvBuffer → ReadFn α) (hq : x.recvBuffers = [])
    (hs : x.recvState = .start ∨ x.recvState = .startComplete)
    (hf : (readFn []).status = .blocked none) :
    (pollReadGeneric x cx readFn).result.poll = .pending := by
  rcases hs with hs | hs <;> simp [pollReadGeneric, hs, hq, hf]

end

section

variable [RangeSet R] [WillWake ω] [StatusApi] {w : Nat} {s : StreamSys R ω}

/-- No waker is left in `read_waiters` while a read that asks for something would answer. -/
def StreamSys.NoLostReader (w : Nat) (s : StreamSys R ω) : Prop :=
  s.inner.readWaiters ≠ [] → ∀ op : StreamOp ω, op.IsNonEmptyRead → ¬ (s.call w op).result.Ready

theorem StreamInner.Parked.noLostReader (h : s.inner.Parked) : s.NoLostReader w := by
  intro hne op hop
  obtain ⟨hq, hs⟩ := h hne
  cases op with
  | pollRead cx len =>
    have hp := Stream.pollReadGeneric_pending cx
      (fun q => (readLoop len ReadLoop.gotBytes).run (.start len q)) hq hs
      (by rw [readLoop_run_nil hop rfl])
    simp [StreamSys.call, Stream.pollRead, ReadPoll.getD, hp, StreamRes.Ready]
  | pollReadBuf cx remaining =>
    have hp := Stream.pollReadGeneric_pending cx
      (fun q => (readLoop remaining ReadLoop.copied).run (.start remaining q)) hq hs
      (by rw [readLoop_run_nil hop rfl])
    have h0 : ¬ remaining = 0 := Nat.pos_iff_ne_zero.mp hop
    simp [StreamSys.call, Stream.pollReadBuf, h0, ReadPoll.getD, hp, StreamRes.Ready]
  | pollReadChunk cx =>
    have hp := Stream.pollReadGeneric_pending cx Stream.popChunk hq hs rfl
    simp [StreamSys.call, Stream.pollReadChunk, hp, StreamRes.Ready]
  | _ => exact hop.elim

omit [WillWake ω] in
theorem StreamInner.Parked.event (h : s.inner.Parked) (ev : MsquicStreamEvent) :
    (s.dispatchEvent w ev).state.inner.Parked := by
  cases ev with
  | startComplete => exact h.startSide (Stream.startSide_startComplete ..)
  | peerAccepted => exact h.startSide (Stream.startSide_peerAccepted _)
  | receive | peerSendShutdown | peerSendAborted => exact parked_of_nil rfl
  | shutdownComplete =>
    by_cases hs : s.inner.state = .shutdownComplete
    · simp only [StreamSys.dispatchEvent, StreamSys.after_inner,
        Stream.handleEventShutdownComplete_again hs]
      exact h
    · simp only [StreamSys.dispatchEvent, StreamSys.after_inner,
        (Stream.handleEventShutdownComplete_first hs _ _ _ _ _ _).2]
      exact parked_of_nil rfl
  | sendComplete canceled clientContext =>
    simp only [StreamSys.dispatchEvent]
    split <;> exact h
  | _ => exact h

/-- **One step** keeps `Parked`, unless it is an `abort_read` that meets a parked reader. -/
theorem StreamInner.Parked.step (h : s.inner.Parked) {l : StreamLabel ω}
    (hc : l.AbortsRead → s.inner.recvState = .startComplete → s.inner.readWaiters = []) :
    (s.step w l).state.inner.Parked := by
  cases l with
  | event ev => exact h.event ev
  | call op =>
    rcases op.group with hop | hop | hop | ⟨cx, failedOnBlock, native, rfl⟩ |
      ⟨cx, errorCode, native, rfl⟩ | ⟨errorCode, native, rfl⟩
    · obtain ⟨popped, -, he⟩ := StreamSys.call_read (w := w) (s := s) hop
      exact h.readEffect he
    · exact h.sendSide (StreamSys.call_write (w := w) hop).1
    · obtain ⟨map, cursor, hy⟩ := StreamSys.call_held (w := w) (s := s) hop
      rw [StreamSys.step, hy]
      exact h
    · exact h.startSide (Stream.startSide_pollStart ..)
    · exact h.pollAbortRead
    · simp only [StreamSys.step, StreamSys.call, StreamSys.after_inner, Stream.abortRead]
      split
      next hs =>
        cases native with
        | error e => exact h
        | ok _ => exact parked_of_nil (hc trivial hs)
      · exact h

/-- After an `abort_read` that meets a parked reader, the reader would be answered. -/
theorem StreamSys.NoLostReader.abortsRead {l : StreamLabel ω} (hl : l.AbortsRead)
    (hs : s.inner.recvState = .startComplete) (h : (s.step w l).state.NoLostReader w) :
    s.inner.readWaiters = [] := by
  cases l with
  | event ev => exact hl.elim
  | call op =>
    cases op with
    | abortRead errorCode native =>
      cases native with
      | error e => exact hl.elim
      | ok _ =>
        by_contra hne
        obtain ⟨cx, -⟩ := List.exists_mem_of_ne_nil _ hne
        have hstep : (s.step w (.call (.abortRead errorCode (.ok ())))).state.inner =
            { s.inner with recvState := .shutdownComplete } := by
          simp only [StreamSys.step, StreamSys.call, StreamSys.after_inner, Stream.abortRead]
          rw [hs]
        refine h (by rw [hstep]; exact hne) (.pollReadChunk cx) trivial ?_
        simp [StreamSys.call, Stream.pollReadChunk, Stream.pollReadGeneric, hstep, StreamRes.Ready]
    | _ => exact hl.elim

variable {ok : StreamContract R ω} {tr : List (StreamStep R ω)}

/-- **No reader is left parked beside something to read, exactly when** every successful
`abort_read` finds nobody parked. -/
theorem no_lost_reader_iff (h : (streamSystem w ok).Run tr s) :
    (s.NoLostReader w ∧ ∀ e ∈ tr, e.pre.NoLostReader w) ↔
      ∀ e ∈ tr, e.label.AbortsRead → e.pre.inner.recvState = .startComplete →
        e.pre.inner.readWaiters = [] := by
  refine h.always_iff (I := fun s => s.inner.Parked) (C := fun s l =>
    l.AbortsRead → s.inner.recvState = .startComplete → s.inner.readWaiters = []) ?_
    (fun s hp => hp.noLostReader) fun tr s l _ _ hp => ⟨fun hc => hp.step hc, fun hlost hl hs => ?_⟩
  · rintro s (_ | _) <;> exact parked_of_nil rfl
  · exact StreamSys.NoLostReader.abortsRead hl hs hlost

end

/-- A reader parks, and the Receive that answers it wakes it. -/
theorem no_lost_reader_receive :
    ∃ (tr : List (StreamStep Coalesced Nat)) (s : StreamSys Coalesced Nat),
      (streamSystem 64 fun _ _ _ => True).Run tr s ∧
      tr.map Step.label =
        [.event (.receive 0 1 [.ofSlice [1]] {}), .call (.pollRead 7 4)] ∧
      s.NoLostReader 64 := by
  have h0 := System.Run.start
    (S := streamSystem (R := Coalesced) (ω := Nat) 64 fun _ _ _ => True) (.fromRaw .bidirectional)
  have h1 := (h0.step (.call (.pollRead 7 4)) trivial).step
    (.event (.receive 0 1 [.ofSlice [1]] {})) trivial
  refine ⟨_, _, h1, rfl, ((no_lost_reader_iff h1).mpr ?_).1⟩
  simp [StreamLabel.AbortsRead]

/-- A reader parks, another task aborts reading: the reader stays parked though a read would
answer. -/
theorem abort_read_leaves_reader :
    ∃ (tr : List (StreamStep Coalesced Nat)) (s : StreamSys Coalesced Nat),
      (streamSystem 64 fun _ _ _ => True).Run tr s ∧
      tr.map Step.label = [.call (.abortRead 0 (.ok ())), .call (.pollRead 7 4)] ∧
      s.inner.readWaiters = [7] ∧ (s.call 64 (.pollRead 8 4)).result = .read (.ready (.ok [])) := by
  have h0 := System.Run.start
    (S := streamSystem (R := Coalesced) (ω := Nat) 64 fun _ _ _ => True) (.fromRaw .bidirectional)
  have h1 := (h0.step (.call (.pollRead 7 4)) trivial).step
    (.call (.abortRead 0 (.ok ()))) trivial
  exact ⟨_, _, h1, rfl, rfl, rfl⟩

end MsquicAsync
