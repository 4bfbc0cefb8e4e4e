import MsquicAsync.Stream.Delivery
import MsquicAsync.Stream.Directions
import MsquicAsync.Stream.ReadAgree

/-!
# Whether the end of a stream is final

A read reports the end while the receive state is `Shutdown`, and in
`ShutdownComplete` as long as no error is recorded (`AtEnd`). Nothing remembers
that the end has been reported: an event that moves the receive state on, or
records an error, makes the next read fail (`KeepsEnd`). A `poll_read_buf` on
empty slices reports an end that is none.
-/

namespace MsquicAsync

open Runs Ranges ReadLoop

variable {R ω : Type}

/-- Every read reports the end of the stream. -/
def StreamInner.AtEnd (x : StreamInner R ω) : Prop :=
  x.recvState = .shutdown ∨ (x.recvState = .shutdownComplete ∧ ¬ x.ErrorRecorded)

theorem Stream.readShutdownComplete_ok_iff {α : Type} {x : StreamInner R ω} :
    (readShutdownComplete x : Except ReadError (Option α)) = .ok none ↔ ¬ x.ErrorRecorded := by
  unfold readShutdownComplete StreamInner.ErrorRecorded
  cases x.connError <;> cases x.cancelledOnLoss <;> cases x.recvErrorCode <;> simp

theorem Stream.getD_none {α : Type} {r : ReadPoll (Option α)} {a : α}
    (h : r.poll = .ready (.ok none)) : (r.getD a).poll = .ready (.ok a) := by
  rw [ReadPoll.getD, h]
  rfl

/-- A `poll_read_buf` with room in its buffer. -/
def StreamOp.IsReadBuf : StreamOp ω → Prop
  | pollReadBuf _ remaining => 0 < remaining
  | _ => False

section

variable [WillWake ω] {x : StreamInner R ω} {cx : ω}

theorem StreamInner.AtEnd.pollReadGeneric {α : Type} {f : List StreamRecvBuffer → ReadFn α}
    (h : x.AtEnd) : (Stream.pollReadGeneric x cx f).result.poll = .ready (.ok none) ∧
      (Stream.pollReadGeneric x cx f).state = x := by
  rcases h with h | ⟨h, herr⟩
  · simp only [Stream.pollReadGeneric, h, and_self]
  · simp only [Stream.pollReadGeneric, h, Stream.readShutdownComplete_ok_iff.mpr herr, and_self]

theorem Stream.pollReadChunk_end_iff :
    (pollReadChunk x cx).result.poll = .ready (.ok none) ↔ x.AtEnd := by
  refine ⟨fun h => ?_, fun h => h.pollReadGeneric.1⟩
  unfold pollReadChunk Stream.pollReadGeneric at h
  cases hs : x.recvState with
  | closed | start =>
    rw [hs] at h
    cases h
  | shutdown => exact .inl hs
  | shutdownComplete =>
    rw [hs] at h
    exact .inr ⟨hs, readShutdownComplete_ok_iff.mp (Poll.ready.inj h)⟩
  | startComplete =>
    rw [hs] at h
    cases hq : x.recvBuffers with
    | nil =>
      rw [hq] at h
      cases h
    | cons b rest =>
      rw [hq] at h
      cases hf : b.fin <;> simp [popChunk, ReadStatus.ofPair, hf] at h

end

section

variable [RangeSet R] [WillWake ω] [StatusApi] {w : Nat} {s : StreamSys R ω} {op : StreamOp ω}

/-- Every read made now reports the end of the stream. -/
def StreamSys.ReadsEnd (w : Nat) (s : StreamSys R ω) : Prop :=
  ∀ op : StreamOp ω, op.IsRead → (s.call w op).result.EndOfStream

theorem StreamSys.readsEnd_iff [Inhabited ω] : s.ReadsEnd w ↔ s.inner.AtEnd := by
  constructor
  · intro h
    have hend := h (.pollReadChunk default) trivial
    exact Stream.pollReadChunk_end_iff.mp (StreamRes.endOfStream_readChunk hend)
  · intro h op hop
    cases op with
    | pollRead cx len =>
      show StreamRes.EndOfStream (.read (Stream.pollRead s.inner cx len).result.poll)
      rw [Stream.pollRead, Ran.lift_result, Stream.getD_none h.pollReadGeneric.1]
      rfl
    | pollReadBuf cx remaining =>
      show StreamRes.EndOfStream (.read (Stream.pollReadBuf s.inner cx remaining).result.poll)
      unfold Stream.pollReadBuf
      split
      · rfl
      · rw [Ran.lift_result, Stream.getD_none h.pollReadGeneric.1]
        rfl
    | pollReadChunk cx =>
      show StreamRes.EndOfStream (.readChunk (Stream.pollReadChunk s.inner cx).result.poll)
      rw [Stream.pollReadChunk_end_iff.mpr h]
      rfl
    | _ => exact hop.elim

/-- A read that asks for bytes and reports the end leaves the stream at its end, unless it is a
`poll_read_buf` that has seen empty slices only. -/
theorem StreamSys.atEnd_of_call (hop : op.IsNonEmptyRead)
    (h : (s.call w op).result.EndOfStream) (hempty : op.IsReadBuf → ¬ Stream.EmptySlicesOnly s.inner) :
    (s.call w op).state.inner.AtEnd := by
  have hread {cx : ω} {n : Nat} (hn : 0 < n)
      (hp : StreamRes.EndOfStream (.read (Stream.pollRead s.inner cx n).result.poll)) :
      (Stream.pollRead s.inner cx n).state.AtEnd := by
    have hvalue := readLoop_value_ne_nil hn s.inner.recvBuffers
    obtain ⟨v, hp, hv⟩ := StreamRes.endOfStream_read hp
    have hend := Stream.pollReadGeneric_ended (fun v => v.getD [] = []) (fun v hst hnil => by
      obtain rfl : v = [] := hnil
      rcases hst with hst | hst <;> exact hvalue (by rw [hst]; rfl)) hp hv
    rcases hend with hend | hend
    · exact .inl hend
    · show (Stream.pollReadGeneric s.inner cx _).state.AtEnd
      rw [(StreamInner.AtEnd.pollReadGeneric (.inr hend)).2]
      exact .inr hend
  cases op with
  | pollRead cx len => exact hread hop h
  | pollReadBuf cx remaining =>
    have hsame : Stream.pollReadBuf s.inner cx remaining = Stream.pollRead s.inner cx remaining :=
      Stream.pollReadBuf_eq_pollRead hop (hempty hop)
    simp only [call, afterRead_inner, afterRead_result, hsame] at h ⊢
    exact hread hop h
  | pollReadChunk cx =>
    have hend := Stream.pollReadChunk_end_iff.mp (StreamRes.endOfStream_readChunk h)
    simp only [call, afterRead_inner, Stream.pollReadChunk, hend.pollReadGeneric.2]
    exact hend
  | _ => exact hop.elim

end

/-! ## Steps from the end -/

/-- A step from the end of the stream that leaves it there: nothing starts the stream again, the
receive side does not move on beside a recorded error, and no error is recorded once it has. -/
def StreamSys.KeepsEnd [StatusApi] (s : StreamSys R ω) : StreamLabel ω → Prop
  | .call (.pollStart _ _ (.ok _)) =>
    ¬ (s.inner.state = .opened ∧ s.inner.streamType = .bidirectional)
  | .event (.startComplete status _ peerAccepted) =>
    ¬ (StatusApi.isOk status ∧ peerAccepted ∧ s.inner.streamType = .bidirectional)
  | .event .peerAccepted => s.inner.streamType ≠ .bidirectional
  | .event .peerSendShutdown => ¬ s.inner.ErrorRecorded
  | .event (.peerSendAborted _) => False
  | .event (.shutdownComplete connectionShutdown _ _ _ _ _) =>
    s.inner.state = .shutdownComplete ∨ (connectionShutdown = false ∧ ¬ s.inner.ErrorRecorded)
  | .event (.cancelOnLoss _) => s.inner.recvState ≠ .shutdownComplete
  | _ => True

namespace StreamInner

variable {x y : StreamInner R ω}

theorem AtEnd.recvState_ne (h : x.AtEnd) : x.recvState ≠ .startComplete := by
  rcases h with h | ⟨h, -⟩ <;> rw [h] <;> exact nofun

theorem AtEnd.congr (h : x.AtEnd) (hr : y.recvState = x.recvState)
    (hc : y.connError = x.connError) (hl : y.cancelledOnLoss = x.cancelledOnLoss)
    (he : y.recvErrorCode = x.recvErrorCode) : y.AtEnd := by
  unfold AtEnd ErrorRecorded at h ⊢
  rwa [hr, hc, hl, he]

theorem atEnd_shutdownComplete (h : x.recvState = .shutdownComplete) :
    x.AtEnd ↔ ¬ x.ErrorRecorded := by
  simp [AtEnd, h]

end StreamInner

section

variable [RangeSet R] [WillWake ω] [StatusApi] {w : Nat} {s : StreamSys R ω}

open StreamInner in
omit [RangeSet R] in
theorem StreamInner.AtEnd.pollStart_iff (h : s.inner.AtEnd) (cx : ω) (failedOnBlock : Bool)
    (native : NativeResult) : (Stream.pollStart s.inner cx failedOnBlock native).state.AtEnd ↔
      s.KeepsEnd (.call (.pollStart cx failedOnBlock native)) := by
  have hopened (hs : s.inner.state ≠ .opened) :
      s.KeepsEnd (.call (.pollStart cx failedOnBlock native)) := by
    cases native with
    | error e => trivial
    | ok _ => exact fun hb => hs hb.1
  unfold Stream.pollStart
  split
  next hs =>
    cases native with
    | error e => exact iff_of_true h trivial
    | ok _ =>
      by_cases hb : s.inner.streamType = .bidirectional
      · refine iff_of_false (fun hend => ?_) fun hk => hk ⟨hs, hb⟩
        simp [AtEnd, hb] at hend
      · refine iff_of_true (h.congr ?_ ?_ ?_ ?_) fun hk => hb hk.2
        · exact if_neg hb
        · rfl
        · rfl
        · rfl
  next hs => exact iff_of_true h (hopened (by rw [hs]; exact nofun))
  next hs _ =>
    refine iff_of_true ?_ (hopened hs)
    cases s.inner.startStatus with
    | none => exact h
    | some startStatus =>
      simp only
      split
      · exact h
      · split <;> exact h

open StreamInner in
theorem StreamInner.AtEnd.call_iff (h : s.inner.AtEnd) (op : StreamOp ω) :
    (s.call w op).state.inner.AtEnd ↔ s.KeepsEnd (.call op) := by
  rcases op.group with hop | hop | hop | ⟨cx, failedOnBlock, native, rfl⟩ |
    ⟨cx, errorCode, native, rfl⟩ | ⟨errorCode, native, rfl⟩
  · obtain ⟨popped, -, he⟩ := StreamSys.call_read (w := w) (s := s) hop
    have hrecv := he.recvState.resolve_right fun hs => h.recvState_ne hs.1
    obtain ⟨_, _, _, _, hy⟩ := he.frame
    refine iff_of_true (h.congr hrecv ?_ ?_ ?_) ?_
    · rw [hy]
    · rw [hy]
    · rw [hy]
    · cases op <;> trivial
  · obtain ⟨_, _, _, _, hy⟩ := (StreamSys.call_write (w := w) (s := s) hop).1.frame
    rw [hy]
    refine iff_of_true h ?_
    cases op <;> trivial
  · obtain ⟨map, cursor, hy⟩ := StreamSys.call_held (w := w) (s := s) hop
    rw [hy]
    refine iff_of_true h ?_
    cases op <;> trivial
  · exact h.pollStart_iff cx failedOnBlock native
  · obtain ⟨⟨_, _, _, hy⟩, -⟩ := Stream.abortSide_pollAbortRead s.inner cx errorCode native
    have hrecv := Stream.recvState_pollAbortRead h.recvState_ne cx errorCode native
    rw [StreamSys.call, StreamSys.after_inner]
    refine iff_of_true (h.congr hrecv ?_ ?_ ?_) trivial <;> rw [hy]
  · obtain ⟨⟨_, _, _, hy⟩, -⟩ := Stream.abortSide_abortRead s.inner errorCode native
    have hrecv := Stream.recvState_abortRead h.recvState_ne errorCode native
    rw [StreamSys.call, StreamSys.after_inner]
    refine iff_of_true (h.congr hrecv ?_ ?_ ?_) trivial <;> rw [hy]

open StreamInner in
omit [WillWake ω] [RangeSet R] in
theorem StreamInner.AtEnd.startComplete_iff (h : s.inner.AtEnd) (status : Status) (id : UInt64)
    (peerAccepted : Bool) :
    (Stream.handleEventStartComplete s.inner status id peerAccepted).state.AtEnd ↔
      s.KeepsEnd (.event (.startComplete status id peerAccepted)) := by
  obtain ⟨_, _, _, _, _, _, hy⟩ :=
    (Stream.startSide_startComplete s.inner status id peerAccepted).frame
  have hrecv : (Stream.handleEventStartComplete s.inner status id peerAccepted).state.recvState =
      if StatusApi.isOk status ∧ peerAccepted ∧ s.inner.streamType = .bidirectional then
        .startComplete
      else s.inner.recvState := by
    unfold Stream.handleEventStartComplete
    simp only [Stream.startedRecvState]
    by_cases hok : StatusApi.isOk status = true ∧ peerAccepted = true
    · rw [if_pos hok]
      split <;> simp [hok]
    · have hno : ¬ (StatusApi.isOk status = true ∧ peerAccepted = true ∧
          s.inner.streamType = .bidirectional) := fun hk => hok ⟨hk.1, hk.2.1⟩
      rw [if_neg hok, if_neg hno]
      split <;> rfl
  by_cases hk : StatusApi.isOk status ∧ peerAccepted ∧ s.inner.streamType = .bidirectional
  · rw [if_pos hk] at hrecv
    exact iff_of_false (fun hend => hend.recvState_ne hrecv) fun hn => hn hk
  · rw [if_neg hk] at hrecv
    refine iff_of_true (h.congr hrecv ?_ ?_ ?_) hk <;> rw [hy]

open StreamInner in
omit [WillWake ω] in
theorem StreamInner.AtEnd.event_iff (h : s.inner.AtEnd) (ev : MsquicStreamEvent) :
    (s.dispatchEvent w ev).state.inner.AtEnd ↔ s.KeepsEnd (.event ev) := by
  cases ev with
  | startComplete status id peerAccepted => exact h.startComplete_iff status id peerAccepted
  | peerAccepted =>
    simp only [StreamSys.dispatchEvent, StreamSys.after_inner, Stream.handleEventPeerAccepted]
    by_cases hb : s.inner.streamType = .bidirectional
    · refine iff_of_false (fun hend => ?_) fun hk => hk hb
      simp [AtEnd, Stream.startedRecvState, hb] at hend
    · exact iff_of_true (h.congr (if_neg hb) rfl rfl rfl) hb
  | peerSendShutdown => exact atEnd_shutdownComplete rfl
  | peerSendAborted errorCode =>
    refine iff_of_false (fun hend => ?_) id
    exact (atEnd_shutdownComplete rfl).mp hend (.inr (.inr rfl))
  | shutdownComplete cs ac ba cr ec st =>
    simp only [StreamSys.dispatchEvent, StreamSys.after_inner, StreamSys.KeepsEnd]
    by_cases hd : s.inner.state = .shutdownComplete
    · rw [Stream.handleEventShutdownComplete_again hd]
      exact iff_of_true h (.inl hd)
    · obtain ⟨map, cursor, hy⟩ := Stream.handleEventShutdownComplete_frame (w := w) hd cs ac ba cr
        ec st
      rw [hy, atEnd_shutdownComplete rfl]
      show ¬ ((Stream.shutdownConnError cs ba cr ec st s.inner.connError).isSome ∨ _) ↔ _
      rw [Stream.shutdownConnError_isSome, or_assoc, not_or, Bool.not_eq_true, or_iff_right hd]
      rfl
  | cancelOnLoss errorCode =>
    show ({ s.inner with cancelledOnLoss := true } : StreamInner R ω).AtEnd ↔
      s.inner.recvState ≠ .shutdownComplete
    rcases h with hs | ⟨hs, -⟩
    · exact iff_of_true (.inl hs) fun hk => by cases hs.symm.trans hk
    · refine iff_of_false (fun hend => ?_) fun hk => hk hs
      rcases hend with hend | ⟨-, hend⟩
      · cases hs.symm.trans hend
      · exact hend (.inr (.inl rfl))
  | sendComplete canceled clientContext =>
    refine iff_of_true ?_ trivial
    simp only [StreamSys.dispatchEvent]
    split <;> exact h
  | receive | peerReceiveAborted | sendShutdownComplete | idealSendBufferSize | other =>
    exact iff_of_true h trivial

end

/-! ## Every run -/

/-- A read that asked for bytes has reported the end of the stream. -/
def StreamStep.ReportsEnd (e : StreamStep R ω) : Prop :=
  ∃ op, e.label = .call op ∧ op.IsNonEmptyRead ∧ e.out.result.EndOfStream

def EndReported (tr : List (StreamStep R ω)) : Prop := ∃ e ∈ tr, StreamStep.ReportsEnd e

theorem endReported_cons {e : StreamStep R ω} {tr : List (StreamStep R ω)} :
    EndReported (e :: tr) ↔ StreamStep.ReportsEnd e ∨ EndReported tr := by
  simp [EndReported]

/-- Once the end has been reported every read reports it. -/
def EndIsFinal [RangeSet R] [WillWake ω] [StatusApi] (w : Nat) (tr : List (StreamStep R ω))
    (s : StreamSys R ω) : Prop := EndReported tr → s.ReadsEnd w

/-- The step is not a `poll_read_buf` that meets empty slices only. -/
def StreamLabel.SeesBytes (x : StreamInner R ω) : StreamLabel ω → Prop
  | .call (.pollReadBuf _ remaining) => 0 < remaining → ¬ Stream.EmptySlicesOnly x
  | _ => True

/-- What is asked of a step: it does not report an end that is none, and once the end has been
reported it does not take the stream away from it. -/
def EndContract [StatusApi] (tr : List (StreamStep R ω)) (s : StreamSys R ω) (l : StreamLabel ω) :
    Prop :=
  l.SeesBytes s.inner ∧ (EndReported tr → s.KeepsEnd l)

section

variable [RangeSet R] [WillWake ω] [StatusApi] {w : Nat} {s : StreamSys R ω}
  {tr : List (StreamStep R ω)}

theorem StreamInner.AtEnd.step_iff (h : s.inner.AtEnd) (l : StreamLabel ω) :
    (s.step w l).state.inner.AtEnd ↔ s.KeepsEnd l := by
  cases l with
  | call op => exact h.call_iff op
  | event ev => exact h.event_iff ev

theorem atEnd_of_reports {ok : StreamContract R ω} {l : StreamLabel ω}
    (h : StreamStep.ReportsEnd ((streamSystem w ok).take s l)) (hl : l.SeesBytes s.inner) :
    (s.step w l).state.inner.AtEnd := by
  obtain ⟨op, rfl, hop, hend⟩ := h
  refine StreamSys.atEnd_of_call hop hend fun hbuf => ?_
  cases op with
  | pollReadBuf cx remaining => exact hl hbuf
  | _ => exact hbuf.elim

/-- On empty slices only, a `poll_read_buf` reports an end that is none. -/
theorem seesBytes_of_final {ok : StreamContract R ω} {l : StreamLabel ω}
    (h : EndReported ((streamSystem w ok).take s l :: tr) → (s.step w l).state.inner.AtEnd) :
    l.SeesBytes s.inner := by
  cases l with
  | event ev => trivial
  | call op =>
    cases op with
    | pollReadBuf cx remaining =>
      intro hn hempty
      obtain ⟨-, hready, hrecv⟩ := hempty.differ cx hn
      refine (h (endReported_cons.mpr (.inl ⟨_, rfl, hn, ?_⟩))).recvState_ne hrecv
      show StreamRes.EndOfStream (.read (Stream.pollReadBuf s.inner cx remaining).result.poll)
      rw [hready]
      rfl
    | _ => trivial

/-- **The end of a stream is final exactly if** no `poll_read_buf` takes empty slices for the end,
and after the end has been reported no step takes the stream away from it. -/
theorem end_final_iff [Inhabited ω] {ok : StreamContract R ω} (h : (streamSystem w ok).Run tr s) :
    (EndIsFinal w tr s ∧ ∀ e tr', e :: tr' <:+ tr → EndIsFinal w tr' e.pre) ↔
      ∀ e tr', e :: tr' <:+ tr → EndContract tr' e.pre e.label := by
  refine h.exact (I := fun tr s => EndReported tr → s.inner.AtEnd) ?_ ?_ ?_
  · exact fun s _ ⟨e, he, _⟩ => absurd he List.not_mem_nil
  · exact fun tr s hi hr => StreamSys.readsEnd_iff.mpr (hi hr)
  · intro tr s l _ _ hi
    refine ⟨fun ⟨hsees, hkeeps⟩ hr => ?_, fun hp => ?_⟩
    · rcases endReported_cons.mp hr with hrep | hr
      · exact atEnd_of_reports hrep hsees
      · exact ((hi hr).step_iff l).mpr (hkeeps hr)
    · have hend : EndReported ((streamSystem w ok).take s l :: tr) →
          (s.step w l).state.inner.AtEnd := fun hr => StreamSys.readsEnd_iff.mp (hp hr)
      refine ⟨seesBytes_of_final hend, fun hr => ?_⟩
      exact ((hi hr).step_iff l).mp (hend (endReported_cons.mpr (.inr hr)))

end

/-- A byte and the FIN are read, the next read reports the end, and MsQuic shuts the stream down. -/
theorem end_final_graceful :
    ∃ (tr : List (StreamStep Coalesced Nat)) (s : StreamSys Coalesced Nat),
      (streamSystem 64 fun _ _ _ => True).Run tr s ∧
      tr.map Step.label = [.event (.shutdownComplete false false false false 0 0),
        .event .peerSendShutdown, .call (.pollRead 7 8), .call (.pollRead 7 8),
        .event (.receive 0 1 [.ofSlice [1]] { fin := true })] ∧
      EndReported tr ∧ EndIsFinal 64 tr s := by
  have h0 := System.Run.start
    (S := streamSystem (R := Coalesced) (ω := Nat) 64 fun _ _ _ => True) (.fromRaw .bidirectional)
  have h1 := h0.step (.event (.receive 0 1 [.ofSlice [1]] { fin := true })) trivial
  have h2 := (h1.step (.call (.pollRead 7 8)) trivial).step (.call (.pollRead 7 8)) trivial
  have h3 := (h2.step (.event .peerSendShutdown) trivial).step
    (.event (.shutdownComplete false false false false 0 0)) trivial
  refine ⟨_, _, h3, rfl, ?_, ((end_final_iff h3).mpr ?_).1⟩
  · exact ⟨_, List.mem_cons_of_mem _ (List.mem_cons_of_mem _ List.mem_cons_self), _, rfl,
      Nat.succ_pos 7, rfl⟩
  · have hclean {x : StreamInner Coalesced Nat} (hc : x.connError = none)
        (hl : x.cancelledOnLoss = false) (he : x.recvErrorCode = none) : ¬ x.ErrorRecorded := by
      simp [StreamInner.ErrorRecorded, hc, hl, he]
    refine forall_suffix_cons.mpr ⟨⟨trivial, fun _ => .inr ⟨rfl, hclean rfl rfl rfl⟩⟩, ?_⟩
    refine forall_suffix_cons.mpr ⟨⟨trivial, fun _ => hclean rfl rfl rfl⟩, ?_⟩
    refine forall_suffix_cons.mpr ⟨⟨trivial, fun _ => trivial⟩, ?_⟩
    refine forall_suffix_cons.mpr ⟨⟨trivial, fun _ => trivial⟩, ?_⟩
    exact forall_suffix_cons.mpr ⟨⟨trivial, fun _ => trivial⟩, forall_suffix_nil⟩

/-- The same reads, and then the connection is shut down: the next read fails. -/
theorem end_not_final_connection_shutdown :
    ∃ (tr : List (StreamStep Coalesced Nat)) (s : StreamSys Coalesced Nat),
      (streamSystem 64 fun _ _ _ => True).Run tr s ∧
      tr.map Step.label = [.event (.shutdownComplete true false true true 5 0),
        .call (.pollRead 7 8), .call (.pollRead 7 8),
        .event (.receive 0 1 [.ofSlice [1]] { fin := true })] ∧
      EndReported tr ∧
      (s.call 64 (.pollRead 7 8)).result =
        .read (.ready (.error (.connectionLost (.shutdownByPeer 5)))) ∧
      ¬ EndIsFinal 64 tr s := by
  have h0 := System.Run.start
    (S := streamSystem (R := Coalesced) (ω := Nat) 64 fun _ _ _ => True) (.fromRaw .bidirectional)
  have h1 := h0.step (.event (.receive 0 1 [.ofSlice [1]] { fin := true })) trivial
  have h2 := (h1.step (.call (.pollRead 7 8)) trivial).step (.call (.pollRead 7 8)) trivial
  have h3 := h2.step (.event (.shutdownComplete true false true true 5 0)) trivial
  refine ⟨_, _, h3, rfl, ?_, rfl, fun hfinal => hfinal ?_ (.pollRead 7 8) trivial⟩
  all_goals exact ⟨_, List.mem_cons_of_mem _ List.mem_cons_self, .pollRead 7 8, rfl,
    Nat.succ_pos 7, rfl⟩

end MsquicAsync
