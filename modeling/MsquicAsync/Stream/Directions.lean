import MsquicAsync.Stream.ReadEffect

/-!
# The direction a stream does not have

A unidirectional stream opened here has no receive side, one opened by the peer
has no send side; the missing side starts out `Closed`. No call leaves `Closed`,
and the handlers of the missing side's events never run, but ShutdownComplete
moves both sides to `ShutdownComplete`. From then on only the two aborts that do
not poll still answer `Closed`.
-/

namespace MsquicAsync

open Runs Ranges

variable {R ω : Type}

/-! ## Calls and events of one side -/

/-- The calls on the receive side of a stream. -/
def StreamOp.OnRecvSide : StreamOp ω → Prop
  | pollRead _ _ | pollReadBuf _ _ | pollReadChunk _ | pollAbortRead _ _ _ | abortRead _ _ => True
  | _ => False

/-- The call is of the side that a unidirectional stream lacks. -/
def StreamOp.WrongWay (x : StreamInner R ω) (op : StreamOp ω) : Prop :=
  if x.localOpen then op.OnRecvSide else op.IsWrite

/-- An abort that does not wait. -/
def StreamOp.IsAbort : StreamOp ω → Prop
  | abortRead _ _ | abortWrite _ _ => True
  | _ => False

/-- A `poll_read_buf` with no room in its buffer. -/
def StreamOp.IsEmptyReadBuf : StreamOp ω → Prop
  | pollReadBuf _ remaining => remaining = 0
  | _ => False

/-- The peer has ended its send side. -/
def StreamLabel.EndsRecvSide : StreamLabel ω → Prop
  | .event .peerSendShutdown | .event (.peerSendAborted _) => True
  | _ => False

/-- The send side has ended. -/
def StreamLabel.EndsSendSide : StreamLabel ω → Prop
  | .event (.peerReceiveAborted _) | .event (.sendShutdownComplete _) => True
  | _ => False

/-- The stream is started from here. -/
def StreamLabel.Starts : StreamLabel ω → Prop
  | .call (.pollStart _ _ _) | .event (.startComplete _ _ _) | .event .peerAccepted => True
  | _ => False

def StreamLabel.isShutdownComplete : StreamLabel ω → Bool
  | .event (.shutdownComplete _ _ _ _ _ _) => true
  | _ => false

/-- ShutdownComplete has been handled. -/
def tornDown (tr : List (StreamStep R ω)) : Bool := tr.any fun e => e.label.isShutdownComplete

/-- A unidirectional stream: MsQuic reports no end of a side it does not have, and only a stream
opened here is started. -/
structure OneWayContract (tr : List (StreamStep R ω)) (s : StreamSys R ω) (l : StreamLabel ω) :
    Prop where
  unidirectional : s.inner.streamType = .unidirectional
  opened : s.inner.localOpen = true → ¬ l.EndsRecvSide
  accepted : s.inner.localOpen = false → ¬ l.EndsSendSide ∧ ¬ l.Starts

/-- The result is the error `Closed`. -/
def StreamRes.IsClosed : StreamRes → Prop
  | .read r => r = .ready (.error .closed)
  | .readChunk r => r = .ready (.error .closed)
  | .pollAbortRead r => r = .ready (.error .closed)
  | .abortRead r => r = .error .closed
  | .write r => r = .returned (.ready (.error .closed))
  | .finishWrite r => r = .ready (.error .closed)
  | .pollAbortWrite r => r = .ready (.error .closed)
  | .abortWrite r => r = .error .closed
  | _ => False

/-! ## The missing side -/

namespace Stream

variable {x : StreamInner R ω}

theorem readShutdownComplete_ne_closed {α : Type} :
    (readShutdownComplete x : Except ReadError (Option α)) ≠ .error .closed := by
  unfold readShutdownComplete
  cases x.connError <;> cases x.cancelledOnLoss <;> cases x.recvErrorCode <;> simp

theorem writeShutdownComplete_ne_closed {α : Type} {done : Except WriteError α}
    (h : done ≠ .error .closed) : writeShutdownComplete x done ≠ .error .closed := by
  unfold writeShutdownComplete
  cases x.connError <;> cases x.cancelledOnLoss <;> cases x.sendErrorCode <;> simp [h]

variable [WillWake ω] {cx : ω}

theorem pollReadGeneric_closed {α : Type} {f : List StreamRecvBuffer → ReadFn α}
    (h : x.recvState = .closed) :
    (pollReadGeneric x cx f).result.poll = .ready (.error .closed) := by
  simp only [pollReadGeneric, h]

theorem pollReadGeneric_shutdownComplete {α : Type} {f : List StreamRecvBuffer → ReadFn α}
    (h : x.recvState = .shutdownComplete) :
    (pollReadGeneric x cx f).result.poll ≠ .ready (.error .closed) := by
  simp only [pollReadGeneric, h]
  exact fun heq => readShutdownComplete_ne_closed (Poll.ready.inj heq)

theorem getD_closed {α : Type} {r : ReadPoll (Option α)} {a : α} :
    (r.getD a).poll = .ready (.error .closed) ↔ r.poll = .ready (.error .closed) := by
  obtain ⟨(_ | _) | _, _⟩ := r <;> simp [ReadPoll.getD, Except.map]

theorem countWritten_closed {r : Outcome (Poll (Except WriteError (Option Nat)))} :
    countWritten r = .returned (.ready (.error .closed)) ↔
      r = .returned (.ready (.error .closed)) := by
  obtain ((_ | _) | _) | _ := r <;> simp [countWritten, Except.map]

theorem pollWriteGeneric_closed {α : Type} {extraFlags : SendFlags}
    {writeFn : WriteBuffer → WriteBuffer × WriteStatus α} {fresh : Nat} {native : NativeResult}
    (h : x.sendState = .closed) : (pollWriteGeneric x cx extraFlags writeFn fresh native).result =
      .returned (.ready (.error .closed)) := by
  simp only [pollWriteGeneric, h]

theorem pollWriteGeneric_shutdownComplete {α : Type} {extraFlags : SendFlags}
    {writeFn : WriteBuffer → WriteBuffer × WriteStatus α} {fresh : Nat} {native : NativeResult}
    (h : x.sendState = .shutdownComplete) :
    (pollWriteGeneric x cx extraFlags writeFn fresh native).result ≠
      .returned (.ready (.error .closed)) := by
  simp only [pollWriteGeneric, h]
  intro heq
  have hdone := Poll.ready.inj (Outcome.returned.inj heq)
  exact writeShutdownComplete_ne_closed (by simp) hdone

end Stream

section

variable [RangeSet R] [WillWake ω] [StatusApi] {w : Nat} {s : StreamSys R ω} {op : StreamOp ω}

theorem StreamSys.call_recv_closed (hop : op.OnRecvSide) (h : s.inner.recvState = .closed) :
    (s.call w op).result.IsClosed ↔ ¬ op.IsEmptyReadBuf := by
  cases op with
  | pollRead cx len =>
    exact iff_of_true (Stream.getD_closed.mpr (Stream.pollReadGeneric_closed h)) id
  | pollReadBuf cx remaining =>
    by_cases h0 : remaining = 0
    · subst h0
      exact iff_of_false (fun hc => by cases hc) (fun hn => hn rfl)
    · refine iff_of_true ?_ h0
      show (Stream.pollReadBuf s.inner cx remaining).result.poll = _
      rw [Stream.pollReadBuf, if_neg h0]
      exact Stream.getD_closed.mpr (Stream.pollReadGeneric_closed h)
  | pollReadChunk cx => exact iff_of_true (Stream.pollReadGeneric_closed h) id
  | pollAbortRead cx errorCode native =>
    refine iff_of_true ?_ id
    show (Stream.pollAbortRead s.inner cx errorCode native).result = _
    simp only [Stream.pollAbortRead, h]
  | abortRead errorCode native =>
    refine iff_of_true ?_ id
    show (Stream.abortRead s.inner errorCode native).result = _
    simp only [Stream.abortRead, h]
  | _ => exact hop.elim

/-- On a receive side that is shut down completely only `abort_read` does. -/
theorem StreamSys.call_recv_shutdownComplete (hop : op.OnRecvSide)
    (h : s.inner.recvState = .shutdownComplete) :
    (s.call w op).result.IsClosed ↔ op.IsAbort := by
  cases op with
  | pollRead cx len =>
    exact iff_of_false (fun hc => Stream.pollReadGeneric_shutdownComplete h
      (Stream.getD_closed.mp hc)) id
  | pollReadBuf cx remaining =>
    refine iff_of_false (fun hc => ?_) id
    by_cases h0 : remaining = 0
    · subst h0
      cases hc
    · have hc : (Stream.pollReadBuf s.inner cx remaining).result.poll = _ := hc
      rw [Stream.pollReadBuf, if_neg h0] at hc
      exact Stream.pollReadGeneric_shutdownComplete h (Stream.getD_closed.mp hc)
  | pollReadChunk cx => exact iff_of_false (Stream.pollReadGeneric_shutdownComplete h) id
  | pollAbortRead cx errorCode native =>
    refine iff_of_false (fun hc => ?_) id
    have hc : (Stream.pollAbortRead s.inner cx errorCode native).result = _ := hc
    simp only [Stream.pollAbortRead, h] at hc
    cases hconn : s.inner.connError <;> cases hcode : s.inner.recvErrorCode <;>
      simp [hconn, hcode] at hc
  | abortRead errorCode native =>
    refine iff_of_true ?_ trivial
    show (Stream.abortRead s.inner errorCode native).result = _
    simp only [Stream.abortRead, h]
  | _ => exact hop.elim

theorem StreamSys.call_send_closed (hop : op.IsWrite) (h : s.inner.sendState = .closed) :
    (s.call w op).result.IsClosed := by
  cases op with
  | pollWrite | pollWriteChunk | pollWriteChunks =>
    exact Stream.countWritten_closed.mpr (Stream.pollWriteGeneric_closed h)
  | pollFinishWrite cx native =>
    show (Stream.pollFinishWrite s.inner cx native).result = _
    simp only [Stream.pollFinishWrite, Stream.shutdownSend, h]
  | pollAbortWrite cx errorCode native =>
    show (Stream.pollAbortWrite s.inner cx errorCode native).result = _
    simp only [Stream.pollAbortWrite, Stream.shutdownSend, h]
  | abortWrite errorCode native =>
    show (Stream.abortWrite s.inner errorCode native).result = _
    simp only [Stream.abortWrite, h]
  | _ => exact hop.elim

/-- On a send side that is shut down completely only `abort_write` does. -/
theorem StreamSys.call_send_shutdownComplete (hop : op.IsWrite)
    (h : s.inner.sendState = .shutdownComplete) :
    (s.call w op).result.IsClosed ↔ op.IsAbort := by
  cases op with
  | pollWrite | pollWriteChunk | pollWriteChunks =>
    exact iff_of_false (fun hc => Stream.pollWriteGeneric_shutdownComplete h
      (Stream.countWritten_closed.mp hc)) id
  | pollFinishWrite cx native =>
    refine iff_of_false (fun hc => ?_) id
    have hc : (Stream.pollFinishWrite s.inner cx native).result = _ := hc
    simp only [Stream.pollFinishWrite, Stream.shutdownSend, h] at hc
    exact Stream.writeShutdownComplete_ne_closed (by simp) (Poll.ready.inj hc)
  | pollAbortWrite cx errorCode native =>
    refine iff_of_false (fun hc => ?_) id
    have hc : (Stream.pollAbortWrite s.inner cx errorCode native).result = _ := hc
    simp only [Stream.pollAbortWrite, Stream.shutdownSend, h] at hc
    cases hconn : s.inner.connError <;> cases hcode : s.inner.sendErrorCode <;>
      simp [hconn, hcode] at hc
  | abortWrite errorCode native =>
    refine iff_of_true ?_ trivial
    show (Stream.abortWrite s.inner errorCode native).result = _
    simp only [Stream.abortWrite, h]
  | _ => exact hop.elim

end

/-! ## Every run -/

theorem tornDown_cons {e : StreamStep R ω} {tr : List (StreamStep R ω)} :
    tornDown (e :: tr) = (e.label.isShutdownComplete || tornDown tr) := rfl

/-- The missing side is closed until ShutdownComplete is handled. -/
structure MissingSide (tr : List (StreamStep R ω)) (x : StreamInner R ω) : Prop where
  torn : x.state = .shutdownComplete → tornDown tr = true
  opened : x.localOpen = true →
    x.recvState = if tornDown tr then .shutdownComplete else .closed
  accepted : x.localOpen = false →
    x.sendState = if tornDown tr then .shutdownComplete else .closed

namespace MissingSide

variable {tr : List (StreamStep R ω)} {x y : StreamInner R ω} {e : StreamStep R ω}

theorem recvState_ne (h : MissingSide tr x) (hl : x.localOpen = true) :
    x.recvState ≠ .startComplete := by
  rw [h.opened hl]
  split <;> exact nofun

theorem sendState_ne (h : MissingSide tr x) (hl : x.localOpen = false) :
    x.sendState ≠ .startComplete := by
  rw [h.accepted hl]
  split <;> exact nofun

theorem keep (h : MissingSide tr x) (he : e.label.isShutdownComplete = false)
    (hl : y.localOpen = x.localOpen) (hst : y.state = x.state ∨ y.state ≠ .shutdownComplete)
    (hr : x.localOpen = true → x.recvState ≠ .startComplete → y.recvState = x.recvState)
    (hs : x.localOpen = false → x.sendState ≠ .startComplete → y.sendState = x.sendState) :
    MissingSide (e :: tr) y := by
  have htorn : tornDown (e :: tr) = tornDown tr := by rw [tornDown_cons, he, Bool.false_or]
  refine ⟨fun h' => ?_, fun h' => ?_, fun h' => ?_⟩
  · rw [htorn]
    rcases hst with hst | hst
    · exact h.torn (hst ▸ h')
    · exact absurd h' hst
  · rw [hl] at h'
    rw [htorn, hr h' (h.recvState_ne h'), h.opened h']
  · rw [hl] at h'
    rw [htorn, hs h' (h.sendState_ne h'), h.accepted h']

end MissingSide

theorem Stream.recvState_pollStart [WillWake ω] [StatusApi] {x : StreamInner R ω}
    (hu : x.streamType = .unidirectional) (cx : ω) (failedOnBlock : Bool) (native : NativeResult) :
    (pollStart x cx failedOnBlock native).state.recvState = x.recvState := by
  have hne : x.streamType ≠ .bidirectional := by rw [hu]; exact nofun
  unfold pollStart
  split
  · cases native with
    | error e => rfl
    | ok _ => exact if_neg hne
  · rfl
  · cases x.startStatus with
    | none => rfl
    | some startStatus =>
      simp only
      split
      · rfl
      · split <;> rfl

theorem Stream.startedRecvState_unidirectional {x : StreamInner R ω}
    (hu : x.streamType = .unidirectional) : startedRecvState x = x.recvState := by
  unfold startedRecvState
  rw [hu]
  rfl

theorem Stream.recvState_startComplete [StatusApi] {x : StreamInner R ω}
    (hu : x.streamType = .unidirectional) (status : Status) (id : UInt64) (peerAccepted : Bool) :
    (handleEventStartComplete x status id peerAccepted).state.recvState = x.recvState := by
  unfold handleEventStartComplete
  simp only
  split <;> split <;> first | rfl | exact startedRecvState_unidirectional hu

theorem Stream.recvState_pollAbortRead [WillWake ω] {x : StreamInner R ω}
    (h : x.recvState ≠ .startComplete) (cx : ω) (errorCode : UInt64) (native : NativeResult) :
    (pollAbortRead x cx errorCode native).state.recvState = x.recvState := by
  unfold pollAbortRead
  split
  · rfl
  · next hs => exact absurd hs h
  · cases x.connError with
    | some => rfl
    | none => cases x.recvErrorCode <;> rfl
  · rfl

theorem Stream.recvState_abortRead {x : StreamInner R ω} (h : x.recvState ≠ .startComplete)
    (errorCode : UInt64) (native : NativeResult) :
    (abortRead x errorCode native).state.recvState = x.recvState := by
  unfold abortRead
  split
  · next hs => exact absurd hs h
  · rfl

section

variable [RangeSet R] [WillWake ω] [StatusApi] {w : Nat} {tr : List (StreamStep R ω)}
  {s : StreamSys R ω} {e : StreamStep R ω}

theorem MissingSide.call (h : MissingSide tr s.inner) {op : StreamOp ω}
    (hok : OneWayContract tr s (.call op)) (he : e.label = .call op) :
    MissingSide (e :: tr) (s.call w op).state.inner := by
  have hlabel : e.label.isShutdownComplete = false := by rw [he]; rfl
  rcases op.group with hop | hop | hop | ⟨cx, failedOnBlock, native, rfl⟩ |
    ⟨cx, errorCode, native, rfl⟩ | ⟨errorCode, native, rfl⟩
  · obtain ⟨popped, -, heff⟩ := StreamSys.call_read (w := w) (s := s) hop
    have hrecv := heff.recvState
    obtain ⟨_, _, _, _, hy⟩ := heff.frame
    apply h.keep hlabel
    · rw [hy]
    · left; rw [hy]
    · rintro - hne
      rcases hrecv with hrecv | ⟨hrecv, -⟩
      · exact hrecv
      · exact absurd hrecv hne
    · rintro - -
      rw [hy]
  · have hside := (StreamSys.call_write (w := w) (s := s) hop).1
    have hsend := hside.sendState
    obtain ⟨_, _, _, _, hy⟩ := hside.frame
    apply h.keep hlabel
    · rw [hy]
    · left; rw [hy]
    · rintro - -
      rw [hy]
    · rintro - hne
      rcases hsend with hsend | ⟨hsend, -⟩
      · exact hsend
      · exact absurd hsend hne
  · obtain ⟨map, cursor, hy⟩ := StreamSys.call_held (w := w) (s := s) hop
    apply h.keep hlabel <;> rw [hy]
    · exact .inl rfl
    · exact fun _ _ => rfl
    · exact fun _ _ => rfl
  · have hside := Stream.startSide_pollStart s.inner cx failedOnBlock native
    have hstates := hside.states
    obtain ⟨_, _, _, _, _, _, hy⟩ := hside.frame
    apply h.keep hlabel
    · exact congrArg (fun y => y.localOpen) hy
    · rcases hstates with ⟨hst, -⟩ | ⟨hst, -⟩ | ⟨hst, -⟩
      · exact .inl hst
      · exact .inr fun hd => by cases hst.symm.trans hd
      · exact .inr fun hd => by cases hst.symm.trans hd
    · exact fun _ _ => Stream.recvState_pollStart hok.unidirectional ..
    · exact fun hl _ => absurd trivial (hok.accepted hl).2
  · obtain ⟨⟨_, _, _, hy⟩, -⟩ := Stream.abortSide_pollAbortRead s.inner cx errorCode native
    apply h.keep hlabel
    · exact congrArg (fun y => y.localOpen) hy
    · exact .inl (congrArg (fun y => y.state) hy)
    · exact fun _ hne => Stream.recvState_pollAbortRead hne ..
    · exact fun _ _ => congrArg (fun y => y.sendState) hy
  · obtain ⟨⟨_, _, _, hy⟩, -⟩ := Stream.abortSide_abortRead s.inner errorCode native
    apply h.keep hlabel
    · exact congrArg (fun y => y.localOpen) hy
    · exact .inl (congrArg (fun y => y.state) hy)
    · exact fun _ hne => Stream.recvState_abortRead hne ..
    · exact fun _ _ => congrArg (fun y => y.sendState) hy

omit [WillWake ω] in
theorem MissingSide.event (h : MissingSide tr s.inner) {ev : MsquicStreamEvent}
    (hok : OneWayContract tr s (.event ev)) (he : e.label = .event ev) :
    MissingSide (e :: tr) (s.dispatchEvent w ev).state.inner := by
  cases ev with
  | shutdownComplete cs ac ba cr ec st =>
    have htorn : tornDown (e :: tr) = true := by rw [tornDown_cons, he]; rfl
    simp only [StreamSys.dispatchEvent, StreamSys.after_inner]
    by_cases hd : s.inner.state = .shutdownComplete
    · -- the second one: the missing side was shut down by the first
      have hprev := h.torn hd
      rw [Stream.handleEventShutdownComplete_again hd]
      refine ⟨fun _ => htorn, fun hl => ?_, fun hl => ?_⟩
      · rw [htorn, h.opened hl, hprev]
      · rw [htorn, h.accepted hl, hprev]
    · obtain ⟨map, cursor, hy⟩ := Stream.handleEventShutdownComplete_frame (w := w) hd cs ac ba cr
        ec st
      rw [hy]
      refine ⟨fun _ => htorn, fun _ => ?_, fun _ => ?_⟩ <;> rw [htorn] <;> rfl
  | startComplete status id peerAccepted =>
    have hside := Stream.startSide_startComplete s.inner status id peerAccepted
    obtain ⟨_, _, _, _, _, _, hy⟩ := hside.frame
    apply h.keep (by rw [he]; rfl)
    · exact congrArg (fun y => y.localOpen) hy
    · rcases hside.states with ⟨hst, -⟩ | ⟨hst, -⟩ | ⟨hst, -⟩
      · exact .inl hst
      · exact .inr fun hd => by cases hst.symm.trans hd
      · exact .inr fun hd => by cases hst.symm.trans hd
    · exact fun _ _ => Stream.recvState_startComplete hok.unidirectional ..
    · exact fun hl _ => absurd trivial (hok.accepted hl).2
  | peerAccepted =>
    apply h.keep (by rw [he]; rfl)
    · rfl
    · exact .inr nofun
    · exact fun _ _ => Stream.startedRecvState_unidirectional hok.unidirectional
    · exact fun hl _ => absurd trivial (hok.accepted hl).2
  | peerSendShutdown | peerSendAborted =>
    apply h.keep (by rw [he]; rfl)
    · rfl
    · exact .inl rfl
    · exact fun hl _ => absurd trivial (hok.opened hl)
    · exact fun _ _ => rfl
  | peerReceiveAborted | sendShutdownComplete =>
    apply h.keep (by rw [he]; rfl)
    · rfl
    · exact .inl rfl
    · exact fun _ _ => rfl
    · exact fun hl _ => absurd trivial (hok.accepted hl).1
  | sendComplete canceled clientContext =>
    have hsame : ∃ pool, (s.dispatchEvent w (.sendComplete canceled clientContext)).state.inner =
        { s.inner with writePool := pool } := by
      simp only [StreamSys.dispatchEvent]
      split <;> exact ⟨_, rfl⟩
    obtain ⟨pool, hy⟩ := hsame
    apply h.keep (by rw [he]; rfl) <;> rw [hy]
    · exact .inl rfl
    · exact fun _ _ => rfl
    · exact fun _ _ => rfl
  | receive | idealSendBufferSize | cancelOnLoss | other =>
    exact h.keep (by rw [he]; rfl) rfl (.inl rfl) (fun _ _ => rfl) fun _ _ => rfl

theorem missingSide_run (h : (streamSystem w OneWayContract).Run tr s) :
    s.inner.streamType = .unidirectional → MissingSide tr s.inner := by
  refine h.invariant (I := fun tr s => s.inner.streamType = .unidirectional →
    MissingSide tr s.inner) ?_ ?_
  · rintro s (streamType | streamType) hu
    · exact ⟨(fun hd => by cases hd), (fun _ => rfl), (fun hl => by cases hl)⟩
    · obtain rfl : streamType = .unidirectional := hu
      exact ⟨(fun hd => by cases hd), (fun hl => by cases hl), (fun _ => rfl)⟩
  · intro tr s l _ hok ih _
    have hside := ih hok.unidirectional
    cases l with
    | call op => exact hside.call hok rfl
    | event ev => exact hside.event hok rfl

/-- **A call on the side a stream does not have answers `Closed` exactly if** ShutdownComplete has
not been handled, or the call is an abort that does not wait; a `poll_read_buf` without room never
does. -/
theorem closed_direction_iff (h : (streamSystem w OneWayContract).Run tr s) {e : StreamStep R ω}
    {tr' : List (StreamStep R ω)} (he : e :: tr' <:+ tr) {op : StreamOp ω} (hop : e.label = .call op)
    (hwrong : op.WrongWay e.pre.inner) :
    e.out.result.IsClosed ↔ (tornDown tr' = true → op.IsAbort) ∧ ¬ op.IsEmptyReadBuf := by
  obtain ⟨hr, hok, heq⟩ := h.of_suffix he
  have hside := missingSide_run hr hok.unidirectional
  have hres : e.out.result = (e.pre.call w op).result := by rw [heq, hop]; rfl
  rw [hres]
  unfold StreamOp.WrongWay at hwrong
  split at hwrong
  · next hl =>
    have hrecv := hside.opened hl
    cases ht : tornDown tr' with
    | false =>
      rw [ht] at hrecv
      rw [StreamSys.call_recv_closed hwrong hrecv]
      exact ⟨fun hne => ⟨fun hf => (by cases hf), hne⟩, fun hc => hc.2⟩
    | true =>
      rw [ht] at hrecv
      rw [StreamSys.call_recv_shutdownComplete hwrong hrecv]
      refine ⟨fun ha => ⟨fun _ => ha, ?_⟩, fun hc => hc.1 rfl⟩
      cases op <;> first | exact id | exact ha.elim
  · next hl =>
    have hsend := hside.accepted (by simpa using hl)
    have hne : ¬ op.IsEmptyReadBuf := by
      cases op <;> first | exact id | exact hwrong.elim
    cases ht : tornDown tr' with
    | false =>
      rw [ht] at hsend
      exact iff_of_true (StreamSys.call_send_closed hwrong hsend) ⟨fun hf => (by cases hf), hne⟩
    | true =>
      rw [ht] at hsend
      rw [StreamSys.call_send_shutdownComplete hwrong hsend]
      exact ⟨fun ha => ⟨fun _ => ha, hne⟩, fun hc => hc.1 rfl⟩

end

theorem oneWayContract_opened {tr : List (StreamStep R ω)} {s : StreamSys R ω} {l : StreamLabel ω}
    (hu : s.inner.streamType = .unidirectional) (hl : s.inner.localOpen = true)
    (h : ¬ l.EndsRecvSide) : OneWayContract tr s l :=
  ⟨hu, fun _ => h, fun hf => by cases hl.symm.trans hf⟩

/-- Before ShutdownComplete a read on a stream opened here answers `Closed`. -/
theorem closed_direction_started :
    ∃ (tr : List (StreamStep Coalesced Nat)) (s : StreamSys Coalesced Nat) (e : StreamStep Coalesced Nat),
      (streamSystem 64 OneWayContract).Run (e :: tr) s ∧ e.label = .call (.pollRead 0 8) ∧
      e.out.result.IsClosed := by
  have h0 := System.Run.start (S := streamSystem (R := Coalesced) (ω := Nat) 64 OneWayContract)
    (.opened .unidirectional)
  have h1 := h0.step (.call (.pollStart 0 false (.ok ()))) (oneWayContract_opened rfl rfl id)
  have h2 := h1.step (.event (.startComplete 0 3 true)) (oneWayContract_opened rfl rfl id)
  have h3 := h2.step (.call (.pollRead 0 8)) (oneWayContract_opened rfl rfl id)
  refine ⟨_, _, _, h3, rfl, ?_⟩
  exact (closed_direction_iff h3 (List.suffix_refl _) rfl trivial).mpr ⟨nofun, nofun⟩

/-- A stream is opened and started here, its send side is aborted, and it is torn down: a read on
it then reports an end of stream, and an abort success. -/
theorem missing_side_reports_end :
    ∃ (tr : List (StreamStep Coalesced Nat)) (s : StreamSys Coalesced Nat),
      (streamSystem 64 OneWayContract).Run tr s ∧ s.inner.streamType = .unidirectional ∧
      s.inner.localOpen = true ∧
      (s.call 64 (.pollRead 0 8)).result = .read (.ready (.ok [])) ∧
      (s.call 64 (.pollAbortRead 0 0 (.ok ()))).result = .pollAbortRead (.ready (.ok ())) ∧
      ∃ (e : StreamStep Coalesced Nat) (s' : StreamSys Coalesced Nat),
        (streamSystem 64 OneWayContract).Run (e :: tr) s' ∧ e.label = .call (.pollRead 0 8) ∧
        ¬ e.out.result.IsClosed := by
  have h0 := System.Run.start (S := streamSystem (R := Coalesced) (ω := Nat) 64 OneWayContract)
    (.opened .unidirectional)
  have h1 := h0.step (.call (.pollStart 0 false (.ok ()))) (oneWayContract_opened rfl rfl id)
  have h2 := h1.step (.event (.startComplete 0 3 true)) (oneWayContract_opened rfl rfl id)
  have h3 := h2.step (.call (.abortWrite 0 (.ok ()))) (oneWayContract_opened rfl rfl id)
  have h4 := h3.step (.event (.sendShutdownComplete false)) (oneWayContract_opened rfl rfl id)
  have h5 := h4.step (.event (.shutdownComplete false false false false 0 0))
    (oneWayContract_opened rfl rfl id)
  have h6 := h5.step (.call (.pollRead 0 8)) (oneWayContract_opened rfl rfl id)
  exact ⟨_, _, h5, rfl, rfl, rfl, rfl, _, _, h6, rfl, nofun⟩

end MsquicAsync
