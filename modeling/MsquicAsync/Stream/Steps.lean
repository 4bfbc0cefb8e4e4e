import MsquicAsync.Stream.System

/-!
# What each step does

One lemma for each group of steps that later arguments treat alike. The writes
touch the send side only (`call_write`), a start and a StartComplete event move
the three states together (`StartSide`), an aborted read changes the receive
state and who waits for it (`AbortSide`), and a released buffer changes the
completed ranges (`call_held`).
-/

namespace MsquicAsync

open Runs Ranges

variable {R ω : Type}

/-- The lengths `register_read_complete` returned among the calls. -/
def registered (calls : List StreamCall) : List Nat :=
  calls.filterMap fun
    | .registered len => some len
    | _ => none

/-- The call reports completed bytes. -/
def StreamCall.Reports : StreamCall → Prop
  | registered _ | receiveComplete _ => True
  | _ => False

theorem filterMap_reports {α : Type} {f : StreamCall → Option α} {calls : List StreamCall}
    (hf : ∀ c, c.Reports → f c = none) (h : ∀ c ∈ calls, c.Reports) : calls.filterMap f = [] :=
  List.filterMap_eq_nil_iff.mpr fun c hc => hf c (h c hc)

/-- The start failed for a reason that it cannot tell: its status has no code, or blames a
connection that has left no error. -/
def StreamInner.Unexplained [StatusApi] (x : StreamInner R ω) : Prop :=
  ∃ status, x.startStatus = some status ∧ StatusApi.isOk status = false ∧
    (StatusApi.tryAsStatusCode status = none ∨
      (StatusApi.tryAsStatusCode status = some .aborted ∨
        StatusApi.tryAsStatusCode status = some .invalidState) ∧ x.connError = none)

theorem Stream.pollStart_panics_iff [StatusApi] [WillWake ω] {x : StreamInner R ω}
    (ho : x.state ≠ .opened) (hs : x.state ≠ .start) (cx : ω) (failedOnBlock : Bool)
    (native : NativeResult) :
    (pollStart x cx failedOnBlock native).result.Panics ↔ x.Unexplained := by
  unfold pollStart StreamInner.Unexplained
  split
  next h => exact absurd h ho
  next h => exact absurd h hs
  cases x.startStatus with
  | none => simp [Outcome.Panics]
  | some status =>
    cases hok : StatusApi.isOk status with
    | true => simp [Outcome.Panics, hok]
    | false =>
      cases hc : StatusApi.tryAsStatusCode status with
      | none => simp [Outcome.Panics, hok, hc]
      | some code => cases code <;> cases x.connError <;> simp [Outcome.Panics, expect, hok, hc]

namespace StreamSys

variable {ρ α : Type} (s : StreamSys R ω)

section

variable (r : StreamRan R ω ρ) (g : ρ → StreamRes)

@[simp] theorem after_inner : (s.after r g).state.inner = r.state := rfl
@[simp] theorem after_held : (s.after r g).state.held = s.held := rfl
@[simp] theorem after_native : (s.after r g).state.native = s.native ++ acceptedSends r.calls := rfl
@[simp] theorem after_result : (s.after r g).result = g r.result := rfl
@[simp] theorem after_woken : (s.after r g).woken = r.woken := rfl
@[simp] theorem after_calls : (s.after r g).calls = r.calls := rfl

end

section

variable (r : StreamRan R ω (ReadPoll α)) (chunk : Poll (Except ReadError α) → List StreamRecvBuffer)
  (g : Poll (Except ReadError α) → StreamRes)

@[simp] theorem afterRead_inner : (s.afterRead r chunk g).state.inner = r.state := rfl
@[simp] theorem afterRead_held : (s.afterRead r chunk g).state.held =
    s.held ++ r.result.readCompleteBuffers ++ chunk r.result.poll := rfl
@[simp] theorem afterRead_native : (s.afterRead r chunk g).state.native = s.native := rfl
@[simp] theorem afterRead_result : (s.afterRead r chunk g).result = g r.result.poll := rfl
@[simp] theorem afterRead_woken : (s.afterRead r chunk g).woken = r.woken := rfl
@[simp] theorem afterRead_calls : (s.afterRead r chunk g).calls = r.calls := rfl

end

end StreamSys

/-! ## Writes -/

/-- The calls on the send side of a stream. -/
def StreamOp.IsWrite : StreamOp ω → Prop
  | pollWrite _ _ _ _ _ _ | pollWriteChunk _ _ _ _ _ _ | pollWriteChunks _ _ _ _ _ _
  | pollFinishWrite _ _ | pollAbortWrite _ _ _ | abortWrite _ _ => True
  | _ => False

/-- From `x` to `y` only the send side has changed, and it is not shut down completely. -/
structure SendSide (x y : StreamInner R ω) (calls : List StreamCall) : Prop where
  frame : ∃ sendState pool start shutdown, y =
    { x with
      sendState := sendState
      writePool := pool
      startWaiters := start
      writeShutdownWaiters := shutdown }
  sendState : y.sendState = x.sendState ∨ (x.sendState = .startComplete ∧ y.sendState = .shutdown)
  registered : registered calls = []

namespace Stream

variable {x : StreamInner R ω}

theorem sendSide_sendWrite {α : Type} {extraFlags : SendFlags}
    {writeFn : WriteBuffer → WriteBuffer × WriteStatus α} {fresh : Nat} {native : NativeResult}
    (h : x.sendState = .startComplete) :
    SendSide x (sendWrite x extraFlags writeFn fresh native).state
      (sendWrite x extraFlags writeFn fresh native).calls := by
  unfold sendWrite
  simp only
  split
  · cases native <;> exact ⟨⟨_, _, _, _, rfl⟩, .inl rfl, rfl⟩
  · cases native <;> exact ⟨⟨_, _, _, _, rfl⟩, .inl rfl, rfl⟩
  · exact ⟨⟨_, _, _, _, rfl⟩, .inl rfl, rfl⟩
  · cases native
    · exact ⟨⟨_, _, _, _, rfl⟩, .inl rfl, rfl⟩
    · exact ⟨⟨_, _, _, _, rfl⟩, .inr ⟨h, rfl⟩, rfl⟩

theorem sendSide_pollWriteGeneric [WillWake ω] {α : Type} {cx : ω} {extraFlags : SendFlags}
    {writeFn : WriteBuffer → WriteBuffer × WriteStatus α} {fresh : Nat} {native : NativeResult} :
    SendSide x (pollWriteGeneric x cx extraFlags writeFn fresh native).state
      (pollWriteGeneric x cx extraFlags writeFn fresh native).calls := by
  unfold pollWriteGeneric
  split
  case h_3 h => exact sendSide_sendWrite h
  all_goals exact ⟨⟨_, _, _, _, rfl⟩, .inl rfl, rfl⟩

theorem sendSide_shutdownSend [WillWake ω] {cx : ω} {flags : StreamShutdownFlags}
    {errorCode : UInt64} {native : NativeResult} {done : Except WriteError Unit} :
    SendSide x (shutdownSend x cx flags errorCode native done).state
      (shutdownSend x cx flags errorCode native done).calls := by
  unfold shutdownSend
  simp only
  split
  case h_2 h =>
    cases native
    · exact ⟨⟨_, _, _, _, rfl⟩, .inl rfl, rfl⟩
    · exact ⟨⟨_, _, _, _, rfl⟩, .inr ⟨h, rfl⟩, rfl⟩
  all_goals exact ⟨⟨_, _, _, _, rfl⟩, .inl rfl, rfl⟩

theorem sendSide_abortWrite {errorCode : UInt64} {native : NativeResult} :
    SendSide x (abortWrite x errorCode native).state (abortWrite x errorCode native).calls := by
  unfold abortWrite
  split
  case h_1 h =>
    cases native
    · exact ⟨⟨_, _, _, _, rfl⟩, .inl rfl, rfl⟩
    · exact ⟨⟨_, _, _, _, rfl⟩, .inr ⟨h, rfl⟩, rfl⟩
  case h_2 => exact ⟨⟨_, _, _, _, rfl⟩, .inl rfl, rfl⟩

end Stream

section

variable [RangeSet R] [WillWake ω] [StatusApi] {w : Nat} {s : StreamSys R ω}

theorem StreamSys.call_write {op : StreamOp ω} (h : op.IsWrite) :
    SendSide s.inner (s.call w op).state.inner (s.call w op).calls ∧
      (s.call w op).state.held = s.held := by
  cases op with
  | pollWrite | pollWriteChunk | pollWriteChunks => exact ⟨Stream.sendSide_pollWriteGeneric, rfl⟩
  | pollFinishWrite | pollAbortWrite => exact ⟨Stream.sendSide_shutdownSend, rfl⟩
  | abortWrite => exact ⟨Stream.sendSide_abortWrite, rfl⟩
  | _ => exact h.elim

end

/-! ## Starting -/

/-- From `x` to `y` a stream is started, or has started, or its three states are as they
were; beside them only the id, the start status and the start waiters may differ. -/
structure StartSide (x y : StreamInner R ω) (calls : List StreamCall) : Prop where
  frame : ∃ state startStatus recvState sendState start id, y =
    { x with
      state := state
      startStatus := startStatus
      recvState := recvState
      sendState := sendState
      startWaiters := start
      id := id }
  states : (y.state = x.state ∧ y.recvState = x.recvState ∧ y.sendState = x.sendState) ∨
    (y.state = .start ∧ (y.recvState = x.recvState ∨ y.recvState = .start) ∧
      y.sendState = .start) ∨
    (y.state = .startComplete ∧ (y.recvState = x.recvState ∨ y.recvState = .startComplete) ∧
      y.sendState = .startComplete)
  registered : registered calls = []

namespace Stream

variable {x : StreamInner R ω}

theorem startedRecvState_cases :
    startedRecvState x = x.recvState ∨ startedRecvState x = .startComplete := by
  unfold startedRecvState
  split
  · exact .inr rfl
  · exact .inl rfl

theorem startSide_pollStart [WillWake ω] [StatusApi] (x : StreamInner R ω) (cx : ω)
    (failedOnBlock : Bool) (native : NativeResult) :
    StartSide x (pollStart x cx failedOnBlock native).state
      (pollStart x cx failedOnBlock native).calls := by
  have hsame {start : List ω} {calls : List StreamCall} (hc : registered calls = []) :
      StartSide x { x with startWaiters := start } calls :=
    ⟨⟨_, _, _, _, _, _, rfl⟩, .inl ⟨rfl, rfl, rfl⟩, hc⟩
  unfold pollStart
  split
  · cases native with
    | error e => exact hsame rfl
    | ok _ =>
      refine ⟨⟨_, _, _, _, _, _, rfl⟩, .inr (.inl ⟨rfl, ?_, rfl⟩), rfl⟩
      by_cases hb : x.streamType = .bidirectional
      · exact .inr (if_pos hb)
      · exact .inl (if_neg hb)
  · exact hsame rfl
  · cases x.startStatus with
    | none => exact hsame rfl
    | some startStatus =>
      simp only
      split
      · exact hsame rfl
      · split <;> exact hsame rfl

theorem startSide_startComplete [StatusApi] (x : StreamInner R ω) (status : Status) (id : UInt64)
    (peerAccepted : Bool) :
    StartSide x (handleEventStartComplete x status id peerAccepted).state
      (handleEventStartComplete x status id peerAccepted).calls := by
  unfold handleEventStartComplete
  by_cases h1 : StatusApi.isOk status = true ∧ peerAccepted = true <;>
    simp only [h1, if_true, if_false]
  · split
    all_goals
      exact ⟨⟨_, _, _, _, _, _, rfl⟩, .inr (.inr ⟨rfl, startedRecvState_cases, rfl⟩), rfl⟩
  · split
    all_goals exact ⟨⟨_, _, _, _, _, _, rfl⟩, .inl ⟨rfl, rfl, rfl⟩, rfl⟩

theorem startSide_peerAccepted (x : StreamInner R ω) :
    StartSide x (handleEventPeerAccepted x).state (handleEventPeerAccepted x).calls :=
  ⟨⟨_, _, _, _, _, _, rfl⟩, .inr (.inr ⟨rfl, startedRecvState_cases, rfl⟩), rfl⟩

end Stream

/-! ## Aborted reads -/

/-- From `x` to `y` at most the receive state and who waits for it have changed. -/
structure AbortSide (x y : StreamInner R ω) (calls : List StreamCall) : Prop where
  frame : ∃ recvState start read, y =
    { x with recvState := recvState, startWaiters := start, readWaiters := read }
  registered : registered calls = []

namespace Stream

theorem abortSide_pollAbortRead [WillWake ω] (x : StreamInner R ω) (cx : ω) (errorCode : UInt64)
    (native : NativeResult) :
    AbortSide x (pollAbortRead x cx errorCode native).state
      (pollAbortRead x cx errorCode native).calls := by
  unfold pollAbortRead
  split
  · exact ⟨⟨_, _, _, rfl⟩, rfl⟩
  · cases native <;> exact ⟨⟨_, _, _, rfl⟩, rfl⟩
  · cases x.connError with
    | some => exact ⟨⟨_, _, _, rfl⟩, rfl⟩
    | none => cases x.recvErrorCode <;> exact ⟨⟨_, _, _, rfl⟩, rfl⟩
  · exact ⟨⟨_, _, _, rfl⟩, rfl⟩

theorem abortSide_abortRead (x : StreamInner R ω) (errorCode : UInt64) (native : NativeResult) :
    AbortSide x (abortRead x errorCode native).state (abortRead x errorCode native).calls := by
  unfold abortRead
  split
  · cases native <;> exact ⟨⟨_, _, _, rfl⟩, rfl⟩
  · exact ⟨⟨_, _, _, rfl⟩, rfl⟩

end Stream

/-! ## Buffers that are released -/

section

variable [RangeSet R] {w : Nat} {x : StreamInner R ω}

theorem Stream.registerReadComplete_frame (x : StreamInner R ω) (range : Nat × Nat) (offset : Nat)
    (isEmpty fin : Bool) :
    ∃ map cursor, (registerReadComplete x range offset isEmpty fin).1 =
      { x with readCompleteMap := map, readCompleteCursor := cursor } := by
  obtain ⟨map, hmap⟩ : ∃ map, (if range.1 < range.2 then
      { x with readCompleteMap := RangeSet.insert x.readCompleteMap range.1 range.2 } else x) =
      { x with readCompleteMap := map } := by
    split <;> exact ⟨_, rfl⟩
  simp only [registerReadComplete, hmap]
  split
  · split
    · exact ⟨_, _, rfl⟩
    · split <;> exact ⟨_, _, rfl⟩
  · split <;> exact ⟨_, _, rfl⟩

theorem Stream.dropRecvBuffer_frame (b : StreamRecvBuffer) :
    ∃ map cursor, (dropRecvBuffer w x b).state =
      { x with readCompleteMap := map, readCompleteCursor := cursor } := by
  obtain ⟨map, cursor, h⟩ := registerReadComplete_frame x (b.range w) b.offset b.isEmpty b.fin
  unfold dropRecvBuffer
  split
  · refine ⟨map, cursor, ?_⟩
    rw [← h, readComplete, registerBuffer]
    simp only
    split <;> rfl
  · exact ⟨_, _, rfl⟩

theorem Stream.dropRecvBuffer_reports (b : StreamRecvBuffer) :
    ∀ c ∈ (dropRecvBuffer w x b).calls, c.Reports := by
  unfold dropRecvBuffer readComplete
  split
  · rcases registerBuffer w x b with ⟨y, _ | len⟩
    · exact List.forall_mem_nil _
    · exact List.forall_mem_cons.mpr ⟨trivial, List.forall_mem_singleton.mpr trivial⟩
  · exact List.forall_mem_nil _

theorem Stream.discardBuffers_cons (appCloseInProgress : Bool) (b : StreamRecvBuffer)
    (bufs : List StreamRecvBuffer) (x : StreamInner R ω) :
    (discardBuffers w appCloseInProgress (b :: bufs) x).1 =
        (discardBuffers w appCloseInProgress bufs (registerBuffer w x b).1).1 ∧
      ∃ calls, (∀ c ∈ calls, c.Reports) ∧ registered calls = (registerBuffer w x b).2.toList ∧
        (discardBuffers w appCloseInProgress (b :: bufs) x).2 =
          calls ++ (discardBuffers w appCloseInProgress bufs (registerBuffer w x b).1).2 := by
  simp only [discardBuffers]
  rcases registerBuffer w x b with ⟨y, _ | len⟩
  · exact ⟨rfl, [], List.forall_mem_nil _, rfl, rfl⟩
  · cases appCloseInProgress with
    | true => exact ⟨rfl, [.registered len], List.forall_mem_singleton.mpr trivial, rfl, rfl⟩
    | false =>
      refine ⟨rfl, [.registered len, .receiveComplete len], ?_, rfl, rfl⟩
      exact List.forall_mem_cons.mpr ⟨trivial, List.forall_mem_singleton.mpr trivial⟩

theorem Stream.discardBuffers_frame (appCloseInProgress : Bool) (bufs : List StreamRecvBuffer) :
    ∃ map cursor, (discardBuffers w appCloseInProgress bufs x).1 =
      { x with readCompleteMap := map, readCompleteCursor := cursor } := by
  induction bufs generalizing x with
  | nil => exact ⟨_, _, rfl⟩
  | cons b bufs ih =>
    obtain ⟨map, cursor, h⟩ := registerReadComplete_frame x (b.range w) b.offset b.isEmpty b.fin
    obtain ⟨map', cursor', h'⟩ := ih (x := (registerBuffer w x b).1)
    refine ⟨map', cursor', ?_⟩
    rw [(discardBuffers_cons appCloseInProgress b bufs x).1, h', registerBuffer, h]

theorem Stream.discardBuffers_reports (appCloseInProgress : Bool) (bufs : List StreamRecvBuffer)
    (x : StreamInner R ω) : ∀ c ∈ (discardBuffers w appCloseInProgress bufs x).2, c.Reports := by
  induction bufs generalizing x with
  | nil => exact List.forall_mem_nil _
  | cons b bufs ih =>
    obtain ⟨-, calls, hreports, -, hcalls⟩ := discardBuffers_cons appCloseInProgress b bufs x
    rw [hcalls]
    exact List.forall_mem_append.mpr ⟨hreports, ih _⟩

/-- The states and the errors after ShutdownComplete; nobody waits to read or to start. -/
def StreamInner.shutDown (x : StreamInner R ω) (connError : Option ConnectionError) :
    StreamInner R ω :=
  { x with
    state := .shutdownComplete
    recvState := .shutdownComplete
    sendState := .shutdownComplete
    connError := connError
    startWaiters := []
    readWaiters := [] }

theorem Stream.handleEventShutdownComplete_again (h : x.state = .shutdownComplete)
    (cs ac ba cr : Bool) (ec : UInt64) (st : Status) :
    handleEventShutdownComplete w x cs ac ba cr ec st = { state := x, result := .ok () } := by
  simp only [handleEventShutdownComplete, h, if_true]

theorem Stream.handleEventShutdownComplete_first (h : x.state ≠ .shutdownComplete)
    (cs ac ba cr : Bool) (ec : UInt64) (st : Status) :
    (handleEventShutdownComplete w x cs ac ba cr ec st).calls =
        (discardBuffers w ac x.recvBuffers { x with recvBuffers := [] }).2 ∧
      (handleEventShutdownComplete w x cs ac ba cr ec st).state =
        (discardBuffers w ac x.recvBuffers { x with recvBuffers := [] }).1.shutDown
          (shutdownConnError cs ba cr ec st
            (discardBuffers w ac x.recvBuffers { x with recvBuffers := [] }).1.connError) := by
  rw [handleEventShutdownComplete, if_neg h]
  exact ⟨rfl, rfl⟩

theorem Stream.handleEventShutdownComplete_frame (h : x.state ≠ .shutdownComplete)
    (cs ac ba cr : Bool) (ec : UInt64) (st : Status) :
    ∃ map cursor, (handleEventShutdownComplete w x cs ac ba cr ec st).state =
      { x with
        recvBuffers := []
        readCompleteMap := map
        readCompleteCursor := cursor }.shutDown
        (shutdownConnError cs ba cr ec st x.connError) := by
  obtain ⟨map, cursor, hd⟩ := discardBuffers_frame (w := w) (x := { x with recvBuffers := [] }) ac
    x.recvBuffers
  refine ⟨map, cursor, ?_⟩
  rw [(handleEventShutdownComplete_first h cs ac ba cr ec st).2, hd]

theorem Stream.shutdownConnError_isSome {cs ba cr : Bool} {ec : UInt64} {st : Status}
    {connError : Option ConnectionError} :
    (shutdownConnError cs ba cr ec st connError).isSome ↔ cs = true ∨ connError.isSome := by
  unfold shutdownConnError
  cases cs <;> cases ba <;> cases cr <;> simp

/-- The calls on a held buffer. -/
def StreamOp.IsHeld : StreamOp ω → Prop
  | dropRecvBuffer _ | advance _ _ | getBytesUptoSize _ _ => True
  | _ => False

theorem StreamSys.call_held [WillWake ω] [StatusApi] {s : StreamSys R ω} {op : StreamOp ω}
    (h : op.IsHeld) : ∃ map cursor, (s.call w op).state.inner =
      { s.inner with readCompleteMap := map, readCompleteCursor := cursor } := by
  cases op with
  | dropRecvBuffer i =>
    simp only [call]
    split
    · exact Stream.dropRecvBuffer_frame _
    · exact ⟨_, _, rfl⟩
  | advance i count =>
    simp only [call]
    split
    · split <;> exact ⟨_, _, rfl⟩
    · exact ⟨_, _, rfl⟩
  | getBytesUptoSize i size =>
    simp only [call]
    split
    · split <;> exact ⟨_, _, rfl⟩
    · exact ⟨_, _, rfl⟩
  | _ => exact h.elim

theorem StreamSys.call_held_reports [WillWake ω] [StatusApi] {s : StreamSys R ω} {op : StreamOp ω}
    (h : op.IsHeld) : ∀ c ∈ (s.call w op).calls, c.Reports := by
  cases op with
  | dropRecvBuffer i =>
    simp only [call]
    split
    · exact Stream.dropRecvBuffer_reports _
    · exact List.forall_mem_nil _
  | advance i count =>
    simp only [call]
    split
    · split <;> exact List.forall_mem_nil _
    · exact List.forall_mem_nil _
  | getBytesUptoSize i size =>
    simp only [call]
    split
    · split <;> exact List.forall_mem_nil _
    · exact List.forall_mem_nil _
  | _ => exact h.elim

end

end MsquicAsync
