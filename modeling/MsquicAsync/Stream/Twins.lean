import MsquicAsync.Pool
import MsquicAsync.Stream.Send
import MsquicAsync.Stream.SendCalls

/-!
# Streams that differ in their pools

Only the writes and SendComplete look at the pool of a stream. So two streams
that differ in their pools, and in the addresses of the boxes MsQuic has, answer
alike (`StreamTwins.step`).
-/

namespace MsquicAsync

open Runs Ranges

variable {R ω : Type}

instance : Pooled (StreamInner R ω) where
  pool x := x.writePool
  withPool p x := { x with writePool := p }
  pool_withPool _ _ := rfl
  withPool_pool _ := rfl
  withPool_withPool _ _ _ := rfl

instance : NamesBox StreamCall where
  bare
    | .send buffers flags context result => .send buffers flags { context with ptr := 0 } result
    | c => c

/-! ## Calls that do not look at the pool -/

namespace Stream

theorem blind_pollStart [WillWake ω] [StatusApi] (cx : ω) (failedOnBlock : Bool)
    (native : NativeResult) :
    Blind fun x : StreamInner R ω => pollStart x cx failedOnBlock native := by
  intro p x
  simp only [Pooled.withPool, pollStart]
  split
  · cases native <;> rfl
  · rfl
  · split
    · rfl
    · split
      · rfl
      · split <;> rfl

theorem blind_pollReadGeneric [WillWake ω] {α : Type} (cx : ω)
    (readFn : List StreamRecvBuffer → ReadFn α) :
    Blind fun x : StreamInner R ω => pollReadGeneric x cx readFn := by
  intro p x
  simp only [Pooled.withPool, pollReadGeneric]
  split
  · rfl
  · rfl
  · split <;> rfl
  · rfl
  · rfl

theorem blind_pollRead [WillWake ω] (cx : ω) (len : Nat) :
    Blind fun x : StreamInner R ω => pollRead x cx len :=
  (blind_pollReadGeneric cx _).lift _

theorem blind_pollReadBuf [WillWake ω] (cx : ω) (remaining : Nat) :
    Blind fun x : StreamInner R ω => pollReadBuf x cx remaining := by
  intro p x
  unfold pollReadBuf
  split
  · rfl
  · exact (blind_pollReadGeneric cx _).lift _ p x

theorem blind_shutdownSend [WillWake ω] (cx : ω) (flags : StreamShutdownFlags)
    (errorCode : UInt64) (native : NativeResult)
    {done : StreamInner R ω → Except WriteError Unit}
    (hd : ∀ p x, done (Pooled.withPool p x) = done x) :
    Blind fun x : StreamInner R ω => shutdownSend x cx flags errorCode native (done x) := by
  intro p x
  simp only [hd]
  simp only [Pooled.withPool, shutdownSend]
  split
  · rfl
  · cases native <;> rfl
  · rfl
  · rfl
  · rfl

theorem blind_pollFinishWrite [WillWake ω] (cx : ω) (native : NativeResult) :
    Blind fun x : StreamInner R ω => pollFinishWrite x cx native :=
  blind_shutdownSend cx .GRACEFUL 0 native fun _ _ => rfl

theorem blind_pollAbortWrite [WillWake ω] (cx : ω) (errorCode : UInt64) (native : NativeResult) :
    Blind fun x : StreamInner R ω => pollAbortWrite x cx errorCode native :=
  blind_shutdownSend cx .ABORT_SEND errorCode native fun _ _ => rfl

theorem blind_abortWrite (errorCode : UInt64) (native : NativeResult) :
    Blind fun x : StreamInner R ω => abortWrite x errorCode native := by
  intro p x
  simp only [Pooled.withPool, abortWrite]
  split
  · cases native <;> rfl
  · rfl

theorem blind_pollAbortRead [WillWake ω] (cx : ω) (errorCode : UInt64) (native : NativeResult) :
    Blind fun x : StreamInner R ω => pollAbortRead x cx errorCode native := by
  intro p x
  simp only [Pooled.withPool, pollAbortRead]
  split
  · rfl
  · cases native <;> rfl
  · split
    · rfl
    · split <;> rfl
  · rfl

theorem blind_abortRead (errorCode : UInt64) (native : NativeResult) :
    Blind fun x : StreamInner R ω => abortRead x errorCode native := by
  intro p x
  simp only [Pooled.withPool, abortRead]
  split
  · cases native <;> rfl
  · rfl

theorem blind_startComplete [StatusApi] (status : Status) (id : UInt64) (peerAccepted : Bool) :
    Blind fun x : StreamInner R ω => handleEventStartComplete x status id peerAccepted := by
  intro p x
  simp only [Pooled.withPool, handleEventStartComplete]
  split
  · split <;> rfl
  · split <;> rfl

section

variable [RangeSet R]

theorem registerBuffer_withPool (w : Nat) (b : StreamRecvBuffer) (p : List WriteBuffer)
    (x : StreamInner R ω) :
    registerBuffer w (Pooled.withPool p x) b =
      (Pooled.withPool p (registerBuffer w x b).1, (registerBuffer w x b).2) := by
  simp only [Pooled.withPool, registerBuffer, registerReadComplete]
  by_cases hr : (b.range w).1 < (b.range w).2 <;> simp only [hr, if_true, if_false]
  all_goals
    split
    · split
      · rfl
      · split <;> rfl
    · split <;> rfl

theorem blind_dropRecvBuffer (w : Nat) (b : StreamRecvBuffer) :
    Blind fun x : StreamInner R ω => dropRecvBuffer w x b := by
  intro p x
  unfold dropRecvBuffer
  split
  · simp only [readComplete, registerBuffer_withPool]
    split <;> rfl
  · rfl

theorem discardBuffers_withPool (w : Nat) (ac : Bool) (bufs : List StreamRecvBuffer)
    (p : List WriteBuffer) (x : StreamInner R ω) :
    discardBuffers w ac bufs (Pooled.withPool p x) =
      (Pooled.withPool p (discardBuffers w ac bufs x).1, (discardBuffers w ac bufs x).2) := by
  induction bufs generalizing x with
  | nil => rfl
  | cons b bufs ih =>
    simp only [discardBuffers, registerBuffer_withPool, ih]
    split
    · rfl
    · split <;> rfl

theorem blind_shutdownComplete (w : Nat) (cs ac ba cr : Bool) (ec : UInt64) (st : Status) :
    Blind fun x : StreamInner R ω => handleEventShutdownComplete w x cs ac ba cr ec st := by
  intro p x
  show handleEventShutdownComplete w (Pooled.withPool p x) cs ac ba cr ec st =
    (handleEventShutdownComplete w x cs ac ba cr ec st).lift (Pooled.withPool p) id
  have hd := discardBuffers_withPool w ac x.recvBuffers p { x with recvBuffers := [] }
  simp only [Pooled.withPool] at hd ⊢
  unfold handleEventShutdownComplete
  split
  · rfl
  · simp only [hd]
    rfl

end

/-! ## Writes -/

theorem keepsPtr_putSliceFn (buf : Bytes) (fin : Bool) : WriteBuffer.KeepsPtr (putSliceFn buf fin) :=
  fun _ => rfl

theorem keepsPtr_putChunkFn (chunk : Bytes) (fin : Bool) :
    WriteBuffer.KeepsPtr (putChunkFn chunk fin) :=
  fun _ => rfl

theorem keepsPtr_putChunksFn (chunks : List Bytes) (fin : Bool) :
    WriteBuffer.KeepsPtr (putChunksFn chunks fin) := by
  intro ptr
  simp only [putChunksFn, putChunks_eq]
  rfl

theorem alike_sendWrite {α : Type} {x y : StreamInner R ω} (h : Twins x y) (extraFlags : SendFlags)
    {writeFn : WriteBuffer → WriteBuffer × WriteStatus α} (hw : WriteBuffer.KeepsPtr writeFn)
    (fresh fresh' : Nat) (native : NativeResult) :
    RanAlike (sendWrite x extraFlags writeFn fresh native)
      (sendWrite y extraFlags writeFn fresh' native) := by
  obtain ⟨q, rfl, hq⟩ := h.exists_eq
  have hl := WriteBuffer.empty_popPool_rest h.left fresh
  have hr := WriteBuffer.empty_popPool_rest hq fresh'
  obtain ⟨a, rest, hx⟩ := WriteBuffer.popPool_eq h.left fresh
  obtain ⟨a', rest', hx'⟩ := WriteBuffer.popPool_eq hq fresh'
  unfold sendWrite
  simp only [Pooled.pool, Pooled.withPool] at hx hx' hl hr ⊢
  rw [hx] at hl
  rw [hx'] at hr
  simp only [hx, hx', hw a, hw a', WriteBuffer.getBuffers_at]
  -- the box goes to MsQuic, or comes back empty
  have hback {p : List WriteBuffer} (hp : ∀ b ∈ p, b.Empty) (b : WriteBuffer) :
      ∀ c ∈ b.reset :: p, c.Empty :=
    List.forall_mem_cons.mpr ⟨WriteBuffer.empty_reset b, hp⟩
  rcases (writeFn (WriteBuffer.new 0)).2 with val | val | (_ | val)
  · cases native with
    | ok _ => exact ⟨⟨rfl, hl, hr⟩, rfl⟩
    | error e => exact ⟨⟨rfl, hback hl _, hback hr _⟩, rfl⟩
  · cases native with
    | ok _ => exact ⟨⟨rfl, hl, hr⟩, rfl⟩
    | error e => exact ⟨⟨rfl, hback hl _, hback hr _⟩, rfl⟩
  · exact ⟨⟨rfl, hl, hr⟩, rfl⟩
  · cases native with
    | ok _ => exact ⟨⟨rfl, hl, hr⟩, rfl⟩
    | error e => exact ⟨⟨rfl, hback hl _, hback hr _⟩, rfl⟩

theorem alike_pollWriteGeneric [WillWake ω] {α : Type} {x y : StreamInner R ω} (h : Twins x y)
    (cx : ω) (extraFlags : SendFlags) {writeFn : WriteBuffer → WriteBuffer × WriteStatus α}
    (hw : WriteBuffer.KeepsPtr writeFn) (fresh fresh' : Nat) (native : NativeResult) :
    RanAlike (pollWriteGeneric x cx extraFlags writeFn fresh native)
      (pollWriteGeneric y cx extraFlags writeFn fresh' native) := by
  have hsend := alike_sendWrite h extraFlags hw fresh fresh' native
  obtain ⟨q, rfl, hq⟩ := h.exists_eq
  unfold pollWriteGeneric
  simp only [Pooled.withPool] at hsend ⊢
  split
  · exact ⟨⟨rfl, h.left, hq⟩, rfl⟩
  · exact ⟨⟨rfl, h.left, hq⟩, rfl⟩
  · exact hsend
  · exact ⟨⟨rfl, h.left, hq⟩, rfl⟩
  · exact ⟨⟨rfl, h.left, hq⟩, rfl⟩

theorem alike_sendComplete {x y : StreamInner R ω} (h : Twins x y) (b b' : WriteBuffer) :
    RanAlike (handleEventSendComplete x b) (handleEventSendComplete y b') := by
  obtain ⟨q, rfl, hq⟩ := h.exists_eq
  exact ⟨⟨rfl, List.forall_mem_cons.mpr ⟨WriteBuffer.empty_reset b, h.left⟩,
    List.forall_mem_cons.mpr ⟨WriteBuffer.empty_reset b', hq⟩⟩, rfl⟩

end Stream

/-! ## Steps -/

/-- The streams differ in their pools, and in the addresses of the boxes MsQuic has. -/
structure StreamTwins (s t : StreamSys R ω) : Prop where
  inner : Twins s.inner t.inner
  held : t.held = s.held
  native : t.native.length = s.native.length

/-- The labels ask the same but for addresses: of a box that is new, and of one that MsQuic has
at the same place. -/
inductive StreamAlike (s t : StreamSys R ω) : StreamLabel ω → StreamLabel ω → Prop where
  | same {l : StreamLabel ω} (hf : l.fresh? = none) (hc : l.completes? = none) : StreamAlike s t l l
  | pollWrite (cx : ω) (buf : Bytes) (fin : Bool) (extraFlags : SendFlags) (fresh fresh' : Nat)
      (native : NativeResult) :
      StreamAlike s t (.call (.pollWrite cx buf fin extraFlags fresh native))
        (.call (.pollWrite cx buf fin extraFlags fresh' native))
  | pollWriteChunk (cx : ω) (chunk : Bytes) (fin : Bool) (extraFlags : SendFlags)
      (fresh fresh' : Nat) (native : NativeResult) :
      StreamAlike s t (.call (.pollWriteChunk cx chunk fin extraFlags fresh native))
        (.call (.pollWriteChunk cx chunk fin extraFlags fresh' native))
  | pollWriteChunks (cx : ω) (chunks : List Bytes) (fin : Bool) (extraFlags : SendFlags)
      (fresh fresh' : Nat) (native : NativeResult) :
      StreamAlike s t (.call (.pollWriteChunks cx chunks fin extraFlags fresh native))
        (.call (.pollWriteChunks cx chunks fin extraFlags fresh' native))
  | sendComplete (canceled : Bool) {ptr ptr' : Nat}
      (h : WriteBuffer.place s.native ptr = WriteBuffer.place t.native ptr') :
      StreamAlike s t (.event (.sendComplete canceled ptr)) (.event (.sendComplete canceled ptr'))

theorem streamAlike_self (x : StreamSys R ω) (l : StreamLabel ω) : StreamAlike x x l l := by
  cases l with
  | call op =>
    cases op with
    | pollWrite => exact .pollWrite ..
    | pollWriteChunk => exact .pollWriteChunk ..
    | pollWriteChunks => exact .pollWriteChunks ..
    | _ => exact .same rfl rfl
  | event ev =>
    cases ev with
    | sendComplete canceled ptr => exact .sendComplete canceled rfl
    | _ => exact .same rfl rfl

theorem length_acceptedSends_bare (calls : List StreamCall) :
    (acceptedSends (calls.map NamesBox.bare)).length = (acceptedSends calls).length := by
  induction calls with
  | nil => rfl
  | cons c calls ih =>
    simp only [acceptedSends, List.map_cons, List.filterMap_cons] at ih ⊢
    cases c with
    | send buffers flags context result =>
      cases result with
      | ok _ => exact congrArg (· + 1) ih
      | error e => exact ih
    | _ => exact ih

namespace StreamTwins

variable {s t : StreamSys R ω}

theorem after (h : StreamTwins s t) {ρ : Type} {r r' : StreamRan R ω ρ} (hr : RanAlike r r')
    (g : ρ → StreamRes) : StreamTwins (s.after r g).state (t.after r' g).state ∧
      (t.after r' g).toOut.bare = (s.after r g).toOut.bare := by
  refine ⟨⟨hr.state, h.held, ?_⟩, ?_⟩
  · simp only [StreamSys.after_native, List.length_append, h.native]
    rw [← length_acceptedSends_bare r'.calls, hr.calls, length_acceptedSends_bare]
  · simp only [Out.bare, StreamSys.after_result, StreamSys.after_woken, StreamSys.after_calls,
      hr.result, hr.woken, hr.calls]

theorem afterRead (h : StreamTwins s t) {α : Type} {r r' : StreamRan R ω (ReadPoll α)}
    (hr : RanAlike r r') (chunk : Poll (Except ReadError α) → List StreamRecvBuffer)
    (g : Poll (Except ReadError α) → StreamRes) :
    StreamTwins (s.afterRead r chunk g).state (t.afterRead r' chunk g).state ∧
      (t.afterRead r' chunk g).toOut.bare = (s.afterRead r chunk g).toOut.bare := by
  refine ⟨⟨hr.state, ?_, h.native⟩, ?_⟩
  · simp only [StreamSys.afterRead_held, h.held, hr.result]
  · simp only [Out.bare, StreamSys.afterRead_result, StreamSys.afterRead_woken,
      StreamSys.afterRead_calls, hr.result, hr.woken, hr.calls]

/-- What a stream is asked under the contract its twin may be asked. -/
theorem follow (h : StreamTwins s t)
    (hn : (t.native.map WriteBuffer.ptr).Nodup) {l : StreamLabel ω} (hl : s.SendContract l)
    (held : List Nat) :
    ∃ l', StreamAlike s t l l' ∧ (∀ a, l'.fresh? = some a → a ∉ held) ∧ t.SendContract l' := by
  obtain ⟨fresh', hfresh⟩ := exists_fresh held
  have hnew {a : Nat} (ha : some fresh' = some a) : a ∉ held := Option.some.inj ha ▸ hfresh
  have hsame (hf : l.fresh? = none) (hc : l.completes? = none) :
      ∃ l', StreamAlike s t l l' ∧ (∀ a, l'.fresh? = some a → a ∉ held) ∧ t.SendContract l' := by
    refine ⟨l, .same hf hc, fun a ha => ?_, hl.pieces, fun ptr hp => ?_⟩
    · cases hf.symm.trans ha
    · cases hc.symm.trans hp
  cases l with
  | call op =>
    cases op with
    | pollWrite => exact ⟨_, .pollWrite .., fun a => hnew, hl.pieces, fun ptr hp => by cases hp⟩
    | pollWriteChunk =>
      exact ⟨_, .pollWriteChunk .., fun a => hnew, hl.pieces, fun ptr hp => by cases hp⟩
    | pollWriteChunks =>
      exact ⟨_, .pollWriteChunks .., fun a => hnew, hl.pieces, fun ptr hp => by cases hp⟩
    | _ => exact hsame rfl rfl
  | event ev =>
    cases ev with
    | sendComplete canceled ptr =>
      obtain ⟨ptr', hmem, hplace⟩ := WriteBuffer.exists_place h.native hn (hl.completes ptr rfl)
      exact ⟨_, .sendComplete canceled hplace, (fun a ha => by cases ha),
        (fun p hp => by cases hp), fun q hq => Option.some.inj hq ▸ hmem⟩
    | _ => exact hsame rfl rfl

variable [RangeSet R] [WillWake ω] [StatusApi] {w : Nat}

omit [RangeSet R] [StatusApi] in
theorem write (h : StreamTwins s t) (cx : ω) (extraFlags : SendFlags)
    {writeFn : WriteBuffer → WriteBuffer × WriteStatus Nat} (hw : WriteBuffer.KeepsPtr writeFn)
    (fresh fresh' : Nat) (native : NativeResult) :
    RanAlike
      ((Stream.pollWriteGeneric s.inner cx extraFlags writeFn fresh native).lift id
        Stream.countWritten)
      ((Stream.pollWriteGeneric t.inner cx extraFlags writeFn fresh' native).lift id
        Stream.countWritten) :=
  (Stream.alike_pollWriteGeneric h.inner cx extraFlags hw fresh fresh' native).lift _

theorem call (h : StreamTwins s t) {op : StreamOp ω} (hf : op.fresh? = none) :
    StreamTwins (s.call w op).state (t.call w op).state ∧
      (t.call w op).toOut.bare = (s.call w op).toOut.bare := by
  cases op with
  | pollStart cx failedOnBlock native =>
    exact h.after ((Stream.blind_pollStart cx failedOnBlock native).alike h.inner) _
  | pollRead cx len => exact h.afterRead ((Stream.blind_pollRead cx len).alike h.inner) _ _
  | pollReadBuf cx remaining =>
    exact h.afterRead ((Stream.blind_pollReadBuf cx remaining).alike h.inner) _ _
  | pollReadChunk cx =>
    exact h.afterRead ((Stream.blind_pollReadGeneric cx Stream.popChunk).alike h.inner) _ _
  | pollWrite | pollWriteChunk | pollWriteChunks => cases hf
  | pollFinishWrite cx native =>
    exact h.after ((Stream.blind_pollFinishWrite cx native).alike h.inner) _
  | pollAbortWrite cx errorCode native =>
    exact h.after ((Stream.blind_pollAbortWrite cx errorCode native).alike h.inner) _
  | abortWrite errorCode native =>
    exact h.after ((Stream.blind_abortWrite errorCode native).alike h.inner) _
  | pollAbortRead cx errorCode native =>
    exact h.after ((Stream.blind_pollAbortRead cx errorCode native).alike h.inner) _
  | abortRead errorCode native =>
    exact h.after ((Stream.blind_abortRead errorCode native).alike h.inner) _
  | dropRecvBuffer i =>
    simp only [StreamSys.call, h.held]
    split
    · have h' : StreamTwins { s with held := s.held.eraseIdx i }
          { t with held := s.held.eraseIdx i } := ⟨h.inner, rfl, h.native⟩
      exact h'.after ((Stream.blind_dropRecvBuffer w _).alike h.inner) _
    · exact ⟨h, rfl⟩
  | advance i count =>
    simp only [StreamSys.call, h.held]
    split
    · split
      · exact ⟨⟨h.inner, rfl, h.native⟩, rfl⟩
      · exact ⟨h, rfl⟩
    · exact ⟨h, rfl⟩
  | getBytesUptoSize i size =>
    simp only [StreamSys.call, h.held]
    split
    · split
      · exact ⟨⟨h.inner, rfl, h.native⟩, rfl⟩
      · exact ⟨h, rfl⟩
    · exact ⟨h, rfl⟩

omit [WillWake ω] in
theorem event (h : StreamTwins s t) {ev : MsquicStreamEvent}
    (hc : (.event ev : StreamLabel ω).completes? = none) :
    StreamTwins (s.dispatchEvent w ev).state (t.dispatchEvent w ev).state ∧
      (t.dispatchEvent w ev).toOut.bare = (s.dispatchEvent w ev).toOut.bare := by
  have hblind {f : StreamInner R ω → StreamRan R ω NativeResult} (hf : Blind f) :
      StreamTwins (s.after (f s.inner) .callback).state (t.after (f t.inner) .callback).state ∧
        (t.after (f t.inner) .callback).toOut.bare = (s.after (f s.inner) .callback).toOut.bare :=
    h.after (hf.alike h.inner) _
  cases ev with
  | startComplete status id peerAccepted =>
    exact hblind (Stream.blind_startComplete status id peerAccepted)
  | receive ao tl bufs flags =>
    exact hblind (f := fun x => Stream.handleEventReceive w x ao tl bufs flags) fun _ _ => rfl
  | sendComplete => cases hc
  | peerSendShutdown => exact hblind (f := Stream.handleEventPeerSendShutdown) fun _ _ => rfl
  | peerSendAborted ec =>
    exact hblind (f := fun x => Stream.handleEventPeerSendAborted x ec) fun _ _ => rfl
  | peerReceiveAborted ec =>
    exact hblind (f := fun x => Stream.handleEventPeerReceiveAborted x ec) fun _ _ => rfl
  | sendShutdownComplete graceful =>
    exact hblind (f := fun x => Stream.handleEventSendShutdownComplete x graceful) fun _ _ => rfl
  | shutdownComplete cs ac ba cr ec st =>
    exact hblind (Stream.blind_shutdownComplete w cs ac ba cr ec st)
  | idealSendBufferSize n =>
    exact hblind (f := fun x => Stream.handleEventIdealSendBufferSize x n) fun _ _ => rfl
  | peerAccepted => exact hblind (f := Stream.handleEventPeerAccepted) fun _ _ => rfl
  | cancelOnLoss ec => exact hblind (f := fun x => Stream.handleEventCancelOnLoss x ec) fun _ _ => rfl
  | other => exact ⟨h, rfl⟩

/-- **Twins answer alike** to labels that ask alike, and stay twins. -/
theorem step (h : StreamTwins s t) {l l' : StreamLabel ω} (hl : StreamAlike s t l l') :
    StreamTwins (s.step w l).state (t.step w l').state ∧
      (t.step w l').toOut.bare = (s.step w l).toOut.bare := by
  cases hl with
  | same hf hc =>
    cases l with
    | call op => exact h.call hf
    | event ev => exact h.event hc
  | pollWrite cx buf fin extraFlags fresh fresh' native =>
    exact h.after (h.write cx extraFlags (Stream.keepsPtr_putSliceFn buf fin) fresh fresh' native) _
  | pollWriteChunk cx chunk fin extraFlags fresh fresh' native =>
    exact h.after (h.write cx extraFlags (Stream.keepsPtr_putChunkFn chunk fin) fresh fresh' native) _
  | pollWriteChunks cx chunks fin extraFlags fresh fresh' native =>
    exact h.after
      (h.write cx extraFlags (Stream.keepsPtr_putChunksFn chunks fin) fresh fresh' native) _
  | sendComplete canceled hplace =>
    simp only [StreamSys.step, StreamSys.dispatchEvent]
    rcases WriteBuffer.fromRaw_alike h.native hplace with
      ⟨hx, hy⟩ | ⟨b, b', rest, rest', hx, hy, hlen⟩
    · simp only [hx, hy]
      exact ⟨h, trivial⟩
    · simp only [hx, hy]
      have h' : StreamTwins { s with native := rest } { t with native := rest' } :=
        ⟨h.inner, h.held, hlen⟩
      exact h'.after (Stream.alike_sendComplete h.inner b b') _

/-- **A pool holds empty boxes**, whatever the environment does: the state is its own twin. -/
theorem run {ok : StreamContract R ω} {tr : List (StreamStep R ω)}
    (h : (streamSystem w ok).Run tr s) : StreamTwins s s := by
  refine h.invariant_state (I := fun s => StreamTwins s s) (fun s hs => ?_) fun _ s l _ _ hs =>
    (hs.step (streamAlike_self s l)).1
  refine ⟨twins_self.mpr ?_, rfl, rfl⟩
  cases hs <;> exact List.forall_mem_nil _

end StreamTwins

end MsquicAsync
