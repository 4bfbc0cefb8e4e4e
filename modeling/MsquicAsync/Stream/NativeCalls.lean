import MsquicAsync.Lib.Devices
import MsquicAsync.Stream.SendLaw

/-!
# MsQuic's stream behind ours

MsQuic takes a start of a stream once, and sends, shutdowns and read aborts only
on a stream that has started and is not torn down, each direction until it has
been closed from here. Our stream asks for nothing else, in every order of calls
and events (`stream_calls_in_turn`); `TurnStep` says what one step asks for and
where it leaves the three states.
-/

namespace MsquicAsync

open Runs Ranges

variable {R ω : Type}

/-! ## MsQuic's stream -/

structure NativeStream where
  started : Bool
  ended : Bool
  sendOpen : Bool
  recvOpen : Bool
  deriving DecidableEq, Repr

inductive NativeStreamOp where
  | start (result : NativeResult)
  | send (fin : Bool) (result : NativeResult)
  /-- A GRACEFUL or an ABORT_SEND shutdown. -/
  | closeSend (result : NativeResult)
  /-- An ABORT_RECEIVE shutdown. -/
  | abortReceive (result : NativeResult)
  | shutdownComplete

def StreamCall.nativeOp? : StreamCall → Option NativeStreamOp
  | start _ result => some (.start result)
  | send _ flags _ result => some (.send flags.fin result)
  | shutdown .ABORT_RECEIVE _ result => some (.abortReceive result)
  | shutdown _ _ result => some (.closeSend result)
  | _ => none

def StreamLabel.nativeOps : StreamLabel ω → List NativeStreamOp
  | event (.shutdownComplete _ _ _ _ _ _) => [.shutdownComplete]
  | _ => []

/-- What a step hears of MsQuic's stream, and what it asks of it. -/
def streamOps (e : StreamStep R ω) : List NativeStreamOp :=
  e.label.nativeOps ++ e.out.calls.filterMap StreamCall.nativeOp?

/-- The stream has started and is not torn down. -/
def NativeStream.Live (m : NativeStream) : Prop := m.started = true ∧ m.ended = false

instance (m : NativeStream) : Decidable m.Live := inferInstanceAs (Decidable (_ ∧ _))

/-- `accepted` is whether the peer opened the stream: then it has started. -/
def nativeStream (accepted : Bool) : Device NativeStream NativeStreamOp where
  init := { started := accepted, ended := false, sendOpen := true, recvOpen := true }
  step m
    | .start r =>
      if m.started ∨ m.ended then none else some { m with started := r.toBool }
    | .send fin r =>
      if m.Live ∧ m.sendOpen then some { m with sendOpen := !(fin && r.toBool) } else none
    | .closeSend r => if m.Live ∧ m.sendOpen then some { m with sendOpen := !r.toBool } else none
    | .abortReceive r => if m.Live ∧ m.recvOpen then some { m with recvOpen := !r.toBool } else none
    | .shutdownComplete => some { m with ended := true }

/-! ## One step -/

/-- Neither direction is open. -/
def StreamInner.Unready (x : StreamInner R ω) : Prop :=
  x.sendState ≠ .startComplete ∧ x.recvState ≠ .startComplete

/-- From `x` to `y` neither direction has opened. -/
structure StreamInner.Settles (x y : StreamInner R ω) : Prop where
  state : y.state = x.state
  sendState : y.sendState = .startComplete → x.sendState = .startComplete
  recvState : y.recvState = .startComplete → x.recvState = .startComplete

/-- What a step asks of MsQuic's stream, or hears of it, and where it leaves ours. -/
inductive TurnStep [StatusApi] (x y : StreamInner R ω) :
    StreamLabel ω → List NativeStreamOp → Prop
  | quiet {l : StreamLabel ω} (h : x.Settles y) : TurnStep x y l []
  | starts {cx : ω} {failedOnBlock : Bool} {native : NativeResult} (hx : x.state = .opened)
      (hy : y.state = .start) (hsend : y.sendState = .start)
      (hrecv : y.recvState = .startComplete → x.recvState = .startComplete) :
      TurnStep x y (.call (.pollStart cx failedOnBlock native)) [.start (.ok ())]
  | startFails {cx : ω} {failedOnBlock : Bool} {native : NativeResult} (hx : x.state = .opened)
      (h : y = x) (e : Status) :
      TurnStep x y (.call (.pollStart cx failedOnBlock native)) [.start (.error e)]
  | sends {l : StreamLabel ω} (hx : x.sendState = .startComplete) (h : x.Settles y) (fin : Bool)
      (r : NativeResult)
      (hfin : fin = true → r = .ok () → y.sendState ≠ .startComplete ∨ l.ExtraFin) :
      TurnStep x y l [.send fin r]
  | closes {l : StreamLabel ω} (hx : x.sendState = .startComplete) (h : x.Settles y)
      (r : NativeResult) (hok : r = .ok () → y.sendState ≠ .startComplete) :
      TurnStep x y l [.closeSend r]
  | aborts {l : StreamLabel ω} (hx : x.recvState = .startComplete) (h : x.Settles y)
      (r : NativeResult) (hok : r = .ok () → y.recvState ≠ .startComplete) :
      TurnStep x y l [.abortReceive r]
  | accepted {l : StreamLabel ω} (hl : l.Accepts) (hy : y.state = .startComplete) :
      TurnStep x y l []
  | down {l : StreamLabel ω} (hy : y.state = .shutdownComplete)
      (h : y.Unready ∨ (x.state = .shutdownComplete ∧ y = x)) :
      TurnStep x y l [.shutdownComplete]

theorem StreamInner.Settles.refl (x : StreamInner R ω) : x.Settles x := ⟨rfl, id, id⟩

section

variable [StatusApi] {x y : StreamInner R ω} {l : StreamLabel ω}

theorem TurnStep.closed (hx : x.sendState = .startComplete) (hs : y.state = x.state)
    (hsend : y.sendState = .shutdown) (hrecv : y.recvState = x.recvState) :
    TurnStep x y l [.closeSend (.ok ())] :=
  .closes hx ⟨hs, fun _ => hx, hrecv.symm.trans⟩ _ fun _ => by rw [hsend]; exact nofun

theorem TurnStep.closeFails (hx : x.sendState = .startComplete) (e : Status) :
    TurnStep x x l [.closeSend (.error e)] :=
  .closes hx (.refl x) _ fun h => by cases h

theorem TurnStep.aborted (hx : x.recvState = .startComplete) (hs : y.state = x.state)
    (hsend : y.sendState = x.sendState) (hrecv : y.recvState = .shutdownComplete) :
    TurnStep x y l [.abortReceive (.ok ())] :=
  .aborts hx ⟨hs, hsend.symm.trans, fun _ => hx⟩ _ fun _ => by rw [hrecv]; exact nofun

theorem TurnStep.abortFails (hx : x.recvState = .startComplete) (e : Status) :
    TurnStep x x l [.abortReceive (.error e)] :=
  .aborts hx (.refl x) _ fun h => by cases h

end

namespace Stream

variable [StatusApi] {x : StreamInner R ω} {l : StreamLabel ω}

/-- A step on the stream `x` that ends as `r`. -/
def Asks {ρ : Type} (x : StreamInner R ω) (l : StreamLabel ω) (r : StreamRan R ω ρ) : Prop :=
  TurnStep x r.state l (r.calls.filterMap StreamCall.nativeOp?)

theorem asks_sendWrite {α : Type} {extraFlags : SendFlags}
    {writeFn : WriteBuffer → WriteBuffer × WriteStatus α} {fresh : Nat} {native : NativeResult}
    (h : x.sendState = .startComplete) (hl : extraFlags.fin = true → l.ExtraFin) :
    Asks x l (sendWrite x extraFlags writeFn fresh native) := by
  have hplain {y : StreamInner R ω} (hs : y.state = x.state) (hrecv : y.recvState = x.recvState) :
      TurnStep x y l [.send extraFlags.fin native] :=
    .sends h ⟨hs, fun _ => h, hrecv.symm.trans⟩ _ _ fun hf _ => .inr (hl hf)
  have hlast {y : StreamInner R ω} (hs : y.state = x.state) (hsend : y.sendState = .shutdown)
      (hrecv : y.recvState = x.recvState) :
      TurnStep x y l [.send (SendFlags.FIN.union extraFlags).fin (.ok ())] :=
    .sends h ⟨hs, fun _ => h, hrecv.symm.trans⟩ _ _ fun _ _ => .inl (by rw [hsend]; exact nofun)
  have hfailed {y : StreamInner R ω} {e : Status} (hs : y.state = x.state)
      (hrecv : y.recvState = x.recvState) :
      TurnStep x y l [.send (SendFlags.FIN.union extraFlags).fin (.error e)] :=
    .sends h ⟨hs, fun _ => h, hrecv.symm.trans⟩ _ _ fun _ hr => by cases hr
  unfold Asks sendWrite
  simp only
  split
  · cases native <;> exact hplain rfl rfl
  · cases native <;> exact hplain rfl rfl
  · exact .quiet ⟨rfl, id, id⟩
  · cases native with
    | ok _ => exact hlast rfl rfl rfl
    | error e => exact hfailed rfl rfl

variable [WillWake ω] {cx : ω}

theorem asks_pollWriteGeneric {α : Type} {extraFlags : SendFlags}
    {writeFn : WriteBuffer → WriteBuffer × WriteStatus α} {fresh : Nat} {native : NativeResult}
    (hl : extraFlags.fin = true → l.ExtraFin) :
    Asks x l (pollWriteGeneric x cx extraFlags writeFn fresh native) := by
  unfold pollWriteGeneric
  split
  case h_3 h => exact asks_sendWrite h hl
  all_goals exact .quiet ⟨rfl, id, id⟩

theorem asks_shutdownSend {flags : StreamShutdownFlags} {errorCode : UInt64}
    {native : NativeResult} {done : Except WriteError Unit} (hf : flags ≠ .ABORT_RECEIVE) :
    Asks x l (shutdownSend x cx flags errorCode native done) := by
  have hop : (StreamCall.shutdown flags errorCode native).nativeOp? = some (.closeSend native) := by
    cases flags <;> first | rfl | exact absurd rfl hf
  unfold Asks shutdownSend
  split
  case h_2 h =>
    cases native with
    | ok _ =>
      simp only [List.filterMap_cons, hop, List.filterMap_nil]
      exact .closed h rfl rfl rfl
    | error e =>
      simp only [List.filterMap_cons, hop, List.filterMap_nil]
      exact .closeFails h e
  all_goals exact .quiet ⟨rfl, id, id⟩

omit [WillWake ω] in
theorem asks_abortWrite {errorCode : UInt64} {native : NativeResult} :
    Asks x l (abortWrite x errorCode native) := by
  unfold abortWrite
  split
  case h_1 h =>
    cases native with
    | ok _ => exact .closed h rfl rfl rfl
    | error e => exact .closeFails h e
  case h_2 => exact .quiet (.refl x)

theorem asks_pollAbortRead {errorCode : UInt64} {native : NativeResult} :
    Asks x l (pollAbortRead x cx errorCode native) := by
  unfold pollAbortRead
  split
  case h_2 h =>
    cases native with
    | ok _ => exact .aborted h rfl rfl rfl
    | error e => exact .abortFails h e
  case h_3 =>
    cases x.connError with
    | some => exact .quiet (.refl x)
    | none => cases x.recvErrorCode <;> exact .quiet (.refl x)
  all_goals exact .quiet ⟨rfl, id, id⟩

omit [WillWake ω] in
theorem asks_abortRead {errorCode : UInt64} {native : NativeResult} :
    Asks x l (abortRead x errorCode native) := by
  unfold abortRead
  split
  case h_1 h =>
    cases native with
    | ok _ => exact .aborted h rfl rfl rfl
    | error e => exact .abortFails h e
  case h_2 => exact .quiet (.refl x)

theorem asks_pollStart {failedOnBlock : Bool} {native : NativeResult} :
    Asks x (.call (.pollStart cx failedOnBlock native))
      (pollStart x cx failedOnBlock native) := by
  unfold pollStart
  split
  case h_1 h =>
    cases native with
    | error e => exact .startFails h rfl e
    | ok _ =>
      refine .starts h rfl rfl fun hr => ?_
      by_cases hb : x.streamType = .bidirectional
      · cases (if_pos hb).symm.trans hr
      · exact (if_neg hb).symm.trans hr
  case h_2 => exact .quiet ⟨rfl, id, id⟩
  case h_3 =>
    cases x.startStatus with
    | none => exact .quiet (.refl x)
    | some startStatus =>
      simp only
      split
      · exact .quiet (.refl x)
      · split <;> exact .quiet (.refl x)

end Stream

section

variable [RangeSet R] [WillWake ω] [StatusApi] {w : Nat} {s : StreamSys R ω}

theorem StreamSys.asks_quiet {op : StreamOp ω} (h : op.IsRead ∨ op.IsHeld) :
    TurnStep s.inner (s.call w op).state.inner (.call op)
      ((s.call w op).calls.filterMap StreamCall.nativeOp?) := by
  rcases h with h | h
  · obtain ⟨popped, -, he⟩ := call_read (w := w) (s := s) h
    rw [he.calls]
    obtain ⟨_, _, _, _, hy⟩ := he.frame
    refine .quiet ⟨?_, ?_, fun hr => ?_⟩
    · rw [hy]
    · rw [hy]
      exact id
    · rcases he.recvState with hs | ⟨hs, -⟩
      · exact hs.symm.trans hr
      · exact hs
  · obtain ⟨map, cursor, hy⟩ := call_held (w := w) (s := s) h
    rw [hy, filterMap_reports (f := StreamCall.nativeOp?) (fun c hc => ?_) (call_held_reports h)]
    · exact .quiet ⟨rfl, id, id⟩
    · cases c with
      | start | send | shutdown => exact hc.elim
      | _ => rfl

theorem StreamSys.asks_call (op : StreamOp ω) :
    TurnStep s.inner (s.call w op).state.inner (.call op)
      ((s.call w op).calls.filterMap StreamCall.nativeOp?) := by
  cases op with
  | pollStart => exact Stream.asks_pollStart
  | pollWrite | pollWriteChunk | pollWriteChunks => exact Stream.asks_pollWriteGeneric id
  | pollFinishWrite => exact Stream.asks_shutdownSend nofun
  | pollAbortWrite => exact Stream.asks_shutdownSend nofun
  | abortWrite => exact Stream.asks_abortWrite
  | pollAbortRead => exact Stream.asks_pollAbortRead
  | abortRead => exact Stream.asks_abortRead
  | pollRead | pollReadBuf | pollReadChunk => exact asks_quiet (.inl trivial)
  | dropRecvBuffer | advance | getBytesUptoSize => exact asks_quiet (.inr trivial)

omit [WillWake ω] in
/-- **What an event tells of MsQuic's stream.** Handlers ask for read completions at most. -/
theorem StreamSys.asks_event (ev : MsquicStreamEvent) :
    TurnStep s.inner (s.dispatchEvent w ev).state.inner (.event ev)
      ((StreamLabel.event ev : StreamLabel ω).nativeOps ++
        (s.dispatchEvent w ev).calls.filterMap StreamCall.nativeOp?) := by
  cases ev with
  | startComplete status streamId peerAccepted =>
    simp only [dispatchEvent, after_inner, after_calls, Stream.handleEventStartComplete]
    by_cases h : StatusApi.isOk status = true ∧ peerAccepted = true
    · rw [if_pos h]
      split <;> exact .accepted h rfl
    · rw [if_neg h]
      split <;> exact .quiet ⟨rfl, id, id⟩
  | peerAccepted => exact .accepted trivial rfl
  | peerSendShutdown | peerSendAborted => exact .quiet ⟨rfl, id, fun h => by cases h⟩
  | peerReceiveAborted | sendShutdownComplete =>
    exact .quiet ⟨rfl, (fun h => by cases h), id⟩
  | sendComplete canceled clientContext =>
    simp only [dispatchEvent]
    split <;> exact .quiet ⟨rfl, id, id⟩
  | shutdownComplete cs ac ba cr ec st =>
    simp only [dispatchEvent, after_inner, after_calls]
    by_cases hs : s.inner.state = .shutdownComplete
    · rw [Stream.handleEventShutdownComplete_again hs]
      exact .down hs (.inr ⟨hs, rfl⟩)
    · obtain ⟨hcalls, hstate⟩ :=
        Stream.handleEventShutdownComplete_first (w := w) hs cs ac ba cr ec st
      rw [hcalls, hstate, filterMap_reports (f := StreamCall.nativeOp?) (fun c hc => ?_)
        (Stream.discardBuffers_reports _ _ _)]
      · exact .down rfl (.inl ⟨(fun h => by cases h), fun h => by cases h⟩)
      · cases c with
        | start | send | shutdown => exact hc.elim
        | _ => rfl
  | _ => exact .quiet ⟨rfl, id, id⟩

theorem StreamSys.asks_step (l : StreamLabel ω) :
    TurnStep s.inner (s.step w l).state.inner l
      (l.nativeOps ++ (s.step w l).calls.filterMap StreamCall.nativeOp?) := by
  cases l with
  | call op => exact asks_call op
  | event ev => exact asks_event ev

end

/-! ## Runs -/

/-- A stream that the peer opened is not started from here. -/
structure TurnOrder [StatusApi] (tr : List (StreamStep R ω)) (s : StreamSys R ω)
    (l : StreamLabel ω) : Prop extends SendOrder tr s l where
  localOpen : ∀ cx failedOnBlock native, l = .call (.pollStart cx failedOnBlock native) →
    s.inner.localOpen = true

/-- Ours and MsQuic's. -/
structure StreamTracks (x : StreamInner R ω) (m : NativeStream) : Prop where
  opened : x.state = .opened → x.localOpen = true →
    m = ⟨false, false, true, true⟩ ∧ x.Unready
  starting : x.state = .start → m = ⟨true, false, true, true⟩ ∧ x.Unready
  down : m.ended = true ↔ x.state = .shutdownComplete
  unready : x.state = .shutdownComplete → x.Unready
  send : x.sendState = .startComplete → m.Live ∧ m.sendOpen = true
  recv : x.recvState = .startComplete → m.Live ∧ m.recvOpen = true

section

variable {x y : StreamInner R ω} {m : NativeStream}

theorem StreamInner.Settles.unready (h : x.Settles y) (hx : x.Unready) : y.Unready :=
  ⟨mt h.sendState hx.1, mt h.recvState hx.2⟩

theorem StreamTracks.settle (h : StreamTracks x m) (hs : x.Settles y)
    (hl : y.localOpen = x.localOpen) : StreamTracks y m where
  opened := fun ho hlo => by
    obtain ⟨hm, hu⟩ := h.opened (hs.state.symm.trans ho) (hl.symm.trans hlo)
    exact ⟨hm, hs.unready hu⟩
  starting := fun ho => by
    obtain ⟨hm, hu⟩ := h.starting (hs.state.symm.trans ho)
    exact ⟨hm, hs.unready hu⟩
  down := by rw [hs.state]; exact h.down
  unready := fun ho => hs.unready (h.unready (hs.state.symm.trans ho))
  send := fun ho => h.send (hs.sendState ho)
  recv := fun ho => h.recv (hs.recvState ho)

theorem StreamTracks.live (h : StreamTracks x m) (hu : ¬ x.Unready) : m.Live := by
  unfold StreamInner.Unready at hu
  by_cases hs : x.sendState = .startComplete
  · exact (h.send hs).1
  · by_cases hr : x.recvState = .startComplete
    · exact (h.recv hr).1
    · exact absurd ⟨hs, hr⟩ hu

theorem StreamTracks.update (h : StreamTracks x m) (hs : x.Settles y)
    (hl : y.localOpen = x.localOpen) (hu : ¬ x.Unready) {sendOpen recvOpen : Bool}
    (hsend : y.sendState = .startComplete → sendOpen = true)
    (hrecv : y.recvState = .startComplete → recvOpen = true) :
    StreamTracks y { m with sendOpen := sendOpen, recvOpen := recvOpen } where
  opened := fun ho hlo => absurd (h.opened (hs.state.symm.trans ho) (hl.symm.trans hlo)).2 hu
  starting := fun ho => absurd (h.starting (hs.state.symm.trans ho)).2 hu
  down := by rw [hs.state]; exact h.down
  unready := fun ho => absurd (h.unready (hs.state.symm.trans ho)) hu
  send := fun ho => ⟨h.live hu, hsend ho⟩
  recv := fun ho => ⟨h.live hu, hrecv ho⟩

variable [StatusApi] {b : Bool} {l : StreamLabel ω} {ops : List NativeStreamOp}

/-- **A step that comes in order** asks for nothing that MsQuic refuses. -/
theorem StreamTracks.step (h : StreamTracks x m) (hc : TurnStep x y l ops)
    (hl : y.localOpen = x.localOpen) (haccept : l.Accepts → x.state = .start)
    (hfin : ¬ l.ExtraFin) (hstart : ∀ cx failedOnBlock native,
      l = .call (.pollStart cx failedOnBlock native) → x.localOpen = true) :
    ∃ m', (nativeStream b).run m ops = some m' ∧ StreamTracks y m' := by
  have hsend (hx : x.sendState = .startComplete) : ¬ x.Unready := fun hu => hu.1 hx
  have hrecv (hx : x.recvState = .startComplete) : ¬ x.Unready := fun hu => hu.2 hx
  cases hc with
  | quiet hs => exact ⟨m, rfl, h.settle hs hl⟩
  | starts hx hy hys hyr =>
    obtain ⟨rfl, hu⟩ := h.opened hx (hstart _ _ _ rfl)
    have hyu : y.Unready := ⟨by rw [hys]; exact nofun, mt hyr hu.2⟩
    refine ⟨⟨true, false, true, true⟩, rfl, ?_, fun _ => ⟨rfl, hyu⟩, ?_, fun _ => hyu,
      fun h => absurd h hyu.1, fun h => absurd h hyu.2⟩
    · rw [hy]
      exact nofun
    · rw [hy]
      exact iff_of_false nofun nofun
  | startFails hx hy e =>
    subst hy
    obtain ⟨rfl, hu⟩ := h.opened hx (hstart _ _ _ rfl)
    exact ⟨⟨false, false, true, true⟩, rfl, h⟩
  | sends hx hs fin r hf =>
    obtain ⟨hlive, hopen⟩ := h.send hx
    refine ⟨{ m with sendOpen := !(fin && r.toBool) }, ?_, h.update hs hl (hsend hx) (fun hy => ?_)
      fun hy => (h.recv (hs.recvState hy)).2⟩
    · simp [nativeStream, hlive, hopen]
    · rw [Bool.not_eq_true', Bool.and_eq_false_imp]
      intro hft
      cases r with
      | error e => rfl
      | ok _ => exact absurd hy ((hf hft rfl).resolve_right hfin)
  | closes hx hs r hok =>
    obtain ⟨hlive, hopen⟩ := h.send hx
    refine ⟨{ m with sendOpen := !r.toBool }, ?_, h.update hs hl (hsend hx) (fun hy => ?_)
      fun hy => (h.recv (hs.recvState hy)).2⟩
    · simp [nativeStream, hlive, hopen]
    · cases r with
      | error e => rfl
      | ok _ => exact absurd hy (hok rfl)
  | aborts hx hs r hok =>
    obtain ⟨hlive, hopen⟩ := h.recv hx
    refine ⟨{ m with recvOpen := !r.toBool }, ?_, h.update hs hl (hrecv hx)
      (fun hy => (h.send (hs.sendState hy)).2) fun hy => ?_⟩
    · simp [nativeStream, hlive, hopen]
    · cases r with
      | error e => rfl
      | ok _ => exact absurd hy (hok rfl)
  | accepted ha hy =>
    obtain ⟨rfl, hu⟩ := h.starting (haccept ha)
    refine ⟨_, rfl, ?_, ?_, ?_, ?_, fun _ => ⟨⟨rfl, rfl⟩, rfl⟩, fun _ => ⟨⟨rfl, rfl⟩, rfl⟩⟩
    · rw [hy]
      exact nofun
    · rw [hy]
      exact nofun
    · rw [hy]
      exact iff_of_false nofun nofun
    · rw [hy]
      exact nofun
  | down hy hu =>
    have hyu : y.Unready := by
      rcases hu with hu | ⟨hx, rfl⟩
      · exact hu
      · exact h.unready hx
    refine ⟨{ m with ended := true }, rfl, ?_, ?_, iff_of_true rfl hy, fun _ => hyu,
      fun h => absurd h hyu.1, fun h => absurd h hyu.2⟩
    · rw [hy]
      exact nofun
    · rw [hy]
      exact nofun

variable [RangeSet R] [WillWake ω] {w : Nat} {s : StreamSys R ω} {tr : List (StreamStep R ω)}

/-- **A stream asks in turn**: along every run in MsQuic's order MsQuic's stream takes all it is
asked, and it is torn down exactly when ours is. -/
theorem stream_calls_in_turn (h : (streamSystem w TurnOrder).Run tr s) :
    ∃ m, (nativeStream !s.inner.localOpen).after streamOps tr = some m ∧
      StreamTracks s.inner m := by
  have hon := h.on (f := fun s => s.inner.localOpen) fun s l =>
    (StreamSys.step_shared (w := w) (s := s) l).1
  refine hon.follows (T := fun _ s m => StreamTracks s.inner m) (fun s hi => ?_)
    fun tr s l m _ hok _ ht => ?_
  · obtain ⟨hi, hlo⟩ := hi
    rw [← hlo]
    cases hi with
    | opened streamType =>
      exact ⟨fun _ _ => ⟨rfl, nofun, nofun⟩, nofun, iff_of_false nofun nofun, nofun, nofun, nofun⟩
    | fromRaw streamType =>
      exact ⟨nofun, nofun, iff_of_false nofun nofun, nofun, fun _ => ⟨⟨rfl, rfl⟩, rfl⟩,
        fun _ => ⟨⟨rfl, rfl⟩, rfl⟩⟩
  · exact ht.step (StreamSys.asks_step l) (StreamSys.step_shared (w := w) (s := s) l).1
      (fun ha => (hok.accepts ha).2) hok.extraFlags hok.localOpen

end

/-- A stream is started, written, aborted for reading, finished and torn down; the second abort
asks for nothing. -/
theorem stream_calls_in_turn_abort :
    ∃ (tr : List (StreamStep Coalesced Nat)) (s : StreamSys Coalesced Nat),
      (streamSystem 64 TurnOrder).Run tr s ∧ tr.map Step.label =
        [.event (.shutdownComplete false false false false 0 0),
          .call (.pollFinishWrite 7 (.ok ())), .call (.abortRead 5 (.ok ())),
          .call (.pollAbortRead 7 5 (.ok ())), .call (.pollWrite 7 [1] false .NONE 1 (.ok ())),
          .event .peerAccepted, .call (.pollStart 7 false (.ok ()))] ∧
      asked streamOps tr = [.start (.ok ()), .send false (.ok ()), .abortReceive (.ok ()),
        .closeSend (.ok ()), .shutdownComplete] ∧
      ∃ m, (nativeStream !s.inner.localOpen).after streamOps tr = some m ∧
        StreamTracks s.inner m := by
  have h0 := System.Run.start (S := streamSystem (R := Coalesced) (ω := Nat) 64 TurnOrder)
    (.opened .bidirectional)
  have h1 := h0.step (.call (.pollStart 7 false (.ok ())))
    (by exact ⟨sendOrder_of id id, fun _ _ _ _ => rfl⟩)
  have h2 := h1.step (.event .peerAccepted)
    (by
      refine ⟨⟨fun _ => ⟨?_, rfl⟩, id⟩, nofun⟩
      rintro (⟨h, -⟩ | ⟨e, he, h⟩)
      · cases h
      · rcases List.mem_singleton.mp he with rfl
        exact h)
  have h3 := h2.step (.call (.pollWrite 7 [1] false .NONE 1 (.ok ())))
    (by exact ⟨sendOrder_of id (fun h => by cases h), nofun⟩)
  have h4 := h3.step (.call (.pollAbortRead 7 5 (.ok ()))) (by exact ⟨sendOrder_of id id, nofun⟩)
  have h5 := h4.step (.call (.abortRead 5 (.ok ()))) (by exact ⟨sendOrder_of id id, nofun⟩)
  have h6 := h5.step (.call (.pollFinishWrite 7 (.ok ()))) (by exact ⟨sendOrder_of id id, nofun⟩)
  have h7 := h6.step (.event (.shutdownComplete false false false false 0 0))
    (by exact ⟨sendOrder_of id id, nofun⟩)
  exact ⟨_, _, h7, rfl, rfl, stream_calls_in_turn h7⟩

end MsquicAsync
