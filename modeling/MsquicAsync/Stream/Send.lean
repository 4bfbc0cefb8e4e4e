import MsquicAsync.Send
import MsquicAsync.Stream.ReadEffect

/-!
# The write buffers of a stream

The three write paths fill a box each in its own way (`Writes`) and send it alike
(`boxStep_sendWrite`). SendComplete gives a box back, and no other step touches
the boxes (`StreamSys.step_boxes`).
-/

namespace MsquicAsync

open Runs Ranges

variable {R ω : Type}

/-! ## What a step sends and completes -/

def StreamCall.sent? : StreamCall → Option Sent
  | send buffers _ context result => some ⟨buffers, context, result⟩
  | _ => none

/-- The sends among the calls. -/
def sends (calls : List StreamCall) : List Sent := calls.filterMap StreamCall.sent?

theorem sends_reports {calls : List StreamCall} (h : ∀ c ∈ calls, c.Reports) : sends calls = [] := by
  refine filterMap_reports (fun c hc => ?_) h
  cases c with
  | send => exact hc.elim
  | _ => rfl

/-- What a write is asked to send, piece by piece. -/
def StreamOp.pieces? : StreamOp ω → Option (List Bytes)
  | pollWrite _ buf _ _ _ _ => some [buf]
  | pollWriteChunk _ chunk _ _ _ _ => some [chunk]
  | pollWriteChunks _ chunks _ _ _ _ => some chunks
  | _ => none

/-- The address the allocator has for a write. -/
def StreamOp.fresh? : StreamOp ω → Option Nat
  | pollWrite _ _ _ _ fresh _ | pollWriteChunk _ _ _ _ fresh _ | pollWriteChunks _ _ _ _ fresh _ =>
    some fresh
  | _ => none

namespace StreamLabel

def pieces? : StreamLabel ω → Option (List Bytes)
  | call op => op.pieces?
  | event _ => none

def fresh? : StreamLabel ω → Option Nat
  | call op => op.fresh?
  | event _ => none

/-- The context of a SendComplete event. -/
def completes? : StreamLabel ω → Option Nat
  | event (.sendComplete _ clientContext) => some clientContext
  | _ => none

end StreamLabel

/-- The count a write answers with. -/
def StreamRes.written? : StreamRes → Option Nat
  | write (.returned (.ready (.ok n))) => some n
  | _ => none

def StreamSys.boxes (s : StreamSys R ω) : Boxes := ⟨s.inner.writePool, s.native⟩

theorem acceptedSends_eq_nil {calls : List StreamCall} (h : sends calls = []) :
    acceptedSends calls = [] := by
  unfold sends at h
  unfold acceptedSends
  rw [List.filterMap_eq_nil_iff] at h ⊢
  intro c hc
  have hs := h c hc
  cases c with
  | send => cases hs
  | _ => rfl

/-! ## Writes -/

/-- A write function puts `input` into the box, all of it. -/
structure Writes (writeFn : WriteBuffer → WriteBuffer × WriteStatus Nat) (input : Bytes)
    (fin : Bool) : Prop extends Fills (fun b => (writeFn b).1) input where
  status : ∀ b, (writeFn b).2 = Stream.writeStatus input.length input.length fin

/-- A write function puts its pieces into the box and counts their bytes, of any length. -/
structure Puts (writeFn : WriteBuffer → WriteBuffer × WriteStatus Nat) (pieces : List Bytes)
    (fin : Bool) : Prop where
  ptr : ∀ b, (writeFn b).1.ptr = b.ptr
  handed : ∀ b, b.Empty → (writeFn b).1.getBuffers.2.flatMap QuicBuffer.bytes = handed pieces
  status : ∀ b, (writeFn b).2 = Stream.writeStatus pieces.flatten.length pieces.flatten.length fin

theorem Puts.writes {writeFn : WriteBuffer → WriteBuffer × WriteStatus Nat} {pieces : List Bytes}
    {fin : Bool} (hp : Puts writeFn pieces fin) (h : ∀ c ∈ pieces, c.length < 2 ^ 32) :
    Writes writeFn pieces.flatten fin where
  ptr := hp.ptr
  payload b hb := (hp.handed b hb).trans (handed_of_lt h)
  status := hp.status

namespace Stream

theorem puts_putSliceFn (buf : Bytes) (fin : Bool) : Puts (putSliceFn buf fin) [buf] fin where
  ptr _ := rfl
  handed _ hb := WriteBuffer.handed_putSlice hb buf
  status _ := by
    rw [List.flatten_singleton]
    rfl

theorem puts_putChunkFn (chunk : Bytes) (fin : Bool) : Puts (putChunkFn chunk fin) [chunk] fin where
  ptr _ := rfl
  handed _ hb := WriteBuffer.handed_putZerocopy hb chunk
  status _ := by
    rw [List.flatten_singleton]
    rfl

theorem putChunks_eq (chunks : List Bytes) (b : WriteBuffer) (totalLen totalWritten : Nat) :
    putChunks b chunks totalLen totalWritten =
      ({ b with zerocopy := b.zerocopy ++ chunks }, totalLen + chunks.flatten.length,
        totalWritten + chunks.flatten.length) := by
  induction chunks generalizing b totalLen totalWritten with
  | nil => simp [putChunks]
  | cons c rest ih =>
    simp only [putChunks, WriteBuffer.putZerocopy, ih, List.append_assoc, List.singleton_append,
      List.flatten_cons, List.length_append, Nat.add_assoc]

theorem puts_putChunksFn (chunks : List Bytes) (fin : Bool) :
    Puts (putChunksFn chunks fin) chunks fin where
  ptr b := by simp [putChunksFn, putChunks_eq]
  handed b hb := by
    simp only [putChunksFn, putChunks_eq, hb.2.1, List.nil_append]
    exact WriteBuffer.handed_zerocopy hb chunks
  status b := by simp [putChunksFn, putChunks_eq]

variable [WillWake ω] (x : StreamInner R ω) (extraFlags : SendFlags)
  {writeFn : WriteBuffer → WriteBuffer × WriteStatus Nat} {fin : Bool} (fresh : Nat)
  (native : NativeResult)

omit [WillWake ω] in
/-- **A send that is made**: its box, its answer and what it hands over. -/
theorem sendWrite_spec {n : Nat} (hp : ∀ b, (writeFn b).1.ptr = b.ptr)
    (hw : ∀ b, (writeFn b).2 = writeStatus n n fin) :
    ∃ m : Sent, sends (sendWrite x extraFlags writeFn fresh native).calls = [m] ∧
      m.result = native ∧ m.box.ptr = (WriteBuffer.popPool x.writePool fresh).1.ptr ∧
      m.buffers = (writeFn (WriteBuffer.popPool x.writePool fresh).1).1.getBuffers.2 ∧
      match native with
      | .ok () =>
        acceptedSends (sendWrite x extraFlags writeFn fresh native).calls = [m.box] ∧
        (sendWrite x extraFlags writeFn fresh native).state.writePool =
          (WriteBuffer.popPool x.writePool fresh).2 ∧
        (sendWrite x extraFlags writeFn fresh native).result =
          .returned (.ready (.ok (some n)))
      | .error e =>
        acceptedSends (sendWrite x extraFlags writeFn fresh native).calls = [] ∧
        (sendWrite x extraFlags writeFn fresh native).state.writePool =
          m.box.reset :: (WriteBuffer.popPool x.writePool fresh).2 ∧
        (sendWrite x extraFlags writeFn fresh native).result =
          .returned (.ready (.error (.otherError e))) := by
  refine ⟨⟨_, (writeFn (WriteBuffer.popPool x.writePool fresh).1).1.getBuffers.1, native⟩, ?_, rfl,
    ?_, rfl, ?_⟩
  · simp only [sendWrite, hw, writeStatus]
    cases fin <;> cases native <;> rfl
  · rw [WriteBuffer.getBuffers_ptr, hp]
  · cases native with
    | ok _ =>
      simp only [sendWrite, hw, writeStatus]
      cases fin <;> exact ⟨rfl, rfl, rfl⟩
    | error e =>
      simp only [sendWrite, hw, writeStatus]
      cases fin <;> exact ⟨rfl, rfl, rfl⟩

/-- What a write does to the boxes of its stream, and what it answers. -/
structure WriteStep (x : StreamInner R ω) (pieces : List Bytes) (fresh : Nat)
    (r : StreamRan R ω (Outcome (Poll (Except WriteError (Option Nat))))) : Prop where
  boxes : ∀ native, BoxStep ⟨x.writePool, native⟩ (some fresh) (sends r.calls) none
    ⟨r.state.writePool, native ++ acceptedSends r.calls⟩
  exact : (∀ b ∈ x.writePool, b.Empty) →
    SendExact (some pieces) (sends r.calls) (StreamRes.write (countWritten r.result)).written?

omit [WillWake ω] in
theorem writeStep_sendWrite {pieces : List Bytes} (hw : Writes writeFn pieces.flatten fin) :
    WriteStep x pieces fresh (sendWrite x extraFlags writeFn fresh native) := by
  obtain ⟨m, hs, hres, hptr, hbuf, hans⟩ :=
    sendWrite_spec x extraFlags fresh native hw.ptr hw.status
  have hpayload (hx : ∀ b ∈ x.writePool, b.Empty) : m.payload = pieces.flatten := by
    rw [Sent.payload, hbuf]
    exact hw.payload _ (WriteBuffer.empty_popPool hx fresh)
  cases native with
  | ok _ =>
    obtain ⟨hacc, hpool, hr⟩ := hans
    have hm : m.refused = false := by rw [Sent.refused, hres]
    refine ⟨fun native => ?_, fun hx => ⟨?_, ?_⟩⟩
    · rw [hs, hpool, hacc]
      exact .accepted hptr hm
    · rw [hs]
      intro m' hm'
      rw [List.mem_singleton.mp hm']
      exact ⟨_, rfl, hpayload hx⟩
    · rw [hr]
      intro n hn
      cases hn
      exact ⟨m, _, hs, hm, rfl, rfl⟩
  | error e =>
    obtain ⟨hacc, hpool, hr⟩ := hans
    have hm : m.refused = true := by rw [Sent.refused, hres]
    refine ⟨fun native => ?_, fun hx => ⟨?_, ?_⟩⟩
    · rw [hs, hpool, hacc, List.append_nil]
      exact .refused hptr hm
    · rw [hs]
      intro m' hm'
      rw [List.mem_singleton.mp hm']
      exact ⟨_, rfl, hpayload hx⟩
    · rw [hr]
      intro n hn
      cases hn

theorem writeStep_pollWriteGeneric {pieces : List Bytes} (cx : ω)
    (hw : Writes writeFn pieces.flatten fin) :
    WriteStep x pieces fresh (pollWriteGeneric x cx extraFlags writeFn fresh native) := by
  have hidle {y : StreamInner R ω} {res : Outcome (Poll (Except WriteError (Option Nat)))}
      (hpool : y.writePool = x.writePool)
      (hres : (StreamRes.write (countWritten res)).written? = none) :
      WriteStep x pieces fresh { state := y, result := res } := by
    refine ⟨fun native => ?_, fun _ => ?_⟩
    · rw [hpool]
      show BoxStep _ _ [] none ⟨_, native ++ []⟩
      rw [List.append_nil]
      exact .idle _
    · rw [hres]
      exact sendExact_none _
  unfold pollWriteGeneric
  split
  · exact hidle rfl rfl
  · exact hidle rfl rfl
  · exact writeStep_sendWrite x extraFlags fresh native hw
  · exact hidle rfl rfl
  · refine hidle rfl ?_
    unfold writeShutdownComplete
    cases x.connError with
    | some e => rfl
    | none =>
      cases x.cancelledOnLoss with
      | true => rfl
      | false => cases x.sendErrorCode <;> rfl

end Stream

/-! ## The other steps -/

namespace StreamSys

/-- A critical section that leaves the boxes alone. -/
structure Quiet (s : StreamSys R ω) (r : Ran (StreamSys R ω) ω StreamCall StreamRes) : Prop where
  pool : r.state.inner.writePool = s.inner.writePool
  native : r.state.native = s.native
  sends : sends r.calls = []
  written : r.result.written? = none

variable {ρ : Type} {s : StreamSys R ω}

theorem quiet_after {r : StreamRan R ω ρ} {g : ρ → StreamRes}
    (hpool : r.state.writePool = s.inner.writePool) (hs : MsquicAsync.sends r.calls = [])
    (hg : ∀ a, (g a).written? = none) : Quiet s (s.after r g) where
  pool := hpool
  native := by rw [after_native, acceptedSends_eq_nil hs, List.append_nil]
  sends := hs
  written := hg _

variable [RangeSet R] [WillWake ω] [StatusApi] {w : Nat}

theorem quiet_read {op : StreamOp ω} (h : op.IsRead) : Quiet s (s.call w op) := by
  obtain ⟨popped, -, he⟩ := call_read (w := w) (s := s) h
  obtain ⟨_, _, _, _, hy⟩ := he.frame
  refine ⟨congrArg (fun y => y.writePool) hy, ?_, by rw [he.calls]; rfl, ?_⟩
  · cases op with
    | pollRead | pollReadBuf | pollReadChunk => rfl
    | _ => exact h.elim
  · cases op with
    | pollRead | pollReadBuf | pollReadChunk => rfl
    | _ => exact h.elim

theorem quiet_held {op : StreamOp ω} (h : op.IsHeld) : Quiet s (s.call w op) := by
  obtain ⟨map, cursor, hy⟩ := call_held (w := w) (s := s) h
  have hs := sends_reports (call_held_reports (w := w) (s := s) h)
  have hpool : (s.call w op).state.inner.writePool = s.inner.writePool :=
    congrArg (fun y => y.writePool) hy
  cases op with
  | dropRecvBuffer i =>
    simp only [call] at hpool hs ⊢
    split
    · next b hb =>
      simp only [hb, after_calls] at hpool hs
      exact ⟨hpool, by rw [after_native, acceptedSends_eq_nil hs, List.append_nil], hs, rfl⟩
    · exact ⟨rfl, rfl, rfl, rfl⟩
  | advance i count =>
    simp only [call]
    split
    · split <;> exact ⟨rfl, rfl, rfl, rfl⟩
    · exact ⟨rfl, rfl, rfl, rfl⟩
  | getBytesUptoSize i size =>
    simp only [call]
    split
    · split <;> exact ⟨rfl, rfl, rfl, rfl⟩
    · exact ⟨rfl, rfl, rfl, rfl⟩
  | _ => exact h.elim

omit [RangeSet R] [StatusApi] in
theorem quiet_shutdownSend {cx : ω} {flags : StreamShutdownFlags} {errorCode : UInt64}
    {native : NativeResult} {done : Except WriteError Unit}
    {g : Poll (Except WriteError Unit) → StreamRes} (hg : ∀ a, (g a).written? = none) :
    Quiet s (s.after (Stream.shutdownSend s.inner cx flags errorCode native done) g) := by
  refine quiet_after ?_ ?_ hg
  · unfold Stream.shutdownSend
    simp only
    split
    case h_2 => cases native <;> rfl
    all_goals rfl
  · unfold Stream.shutdownSend
    simp only
    split
    case h_2 => cases native <;> rfl
    all_goals rfl

theorem quiet_call {op : StreamOp ω} (h : op.pieces? = none) : Quiet s (s.call w op) := by
  cases op with
  | pollRead | pollReadBuf | pollReadChunk => exact quiet_read trivial
  | dropRecvBuffer | advance | getBytesUptoSize => exact quiet_held trivial
  | pollWrite | pollWriteChunk | pollWriteChunks => cases h
  | pollFinishWrite | pollAbortWrite => exact quiet_shutdownSend fun _ => rfl
  | pollStart cx failedOnBlock native =>
    obtain ⟨⟨_, _, _, _, _, _, hy⟩, -, -⟩ :=
      Stream.startSide_pollStart s.inner cx failedOnBlock native
    refine quiet_after (congrArg (fun y => y.writePool) hy) ?_ fun _ => rfl
    unfold Stream.pollStart
    split
    · cases native <;> rfl
    · rfl
    · cases s.inner.startStatus with
      | none => rfl
      | some startStatus =>
        simp only
        split
        · rfl
        · split <;> rfl
  | abortWrite errorCode native =>
    refine quiet_after ?_ ?_ fun _ => rfl
    all_goals
      unfold Stream.abortWrite
      split
      · cases native <;> rfl
      · rfl
  | pollAbortRead cx errorCode native =>
    obtain ⟨⟨_, _, _, hy⟩, -⟩ := Stream.abortSide_pollAbortRead s.inner cx errorCode native
    refine quiet_after (congrArg (fun y => y.writePool) hy) ?_ fun _ => rfl
    unfold Stream.pollAbortRead
    split
    · rfl
    · cases native <;> rfl
    · cases s.inner.connError with
      | some => rfl
      | none => cases s.inner.recvErrorCode <;> rfl
    · rfl
  | abortRead errorCode native =>
    obtain ⟨⟨_, _, _, hy⟩, -⟩ := Stream.abortSide_abortRead s.inner errorCode native
    refine quiet_after (congrArg (fun y => y.writePool) hy) ?_ fun _ => rfl
    unfold Stream.abortRead
    split
    · cases native <;> rfl
    · rfl

omit [WillWake ω] in
theorem quiet_event {ev : MsquicStreamEvent} (h : (.event ev : StreamLabel ω).completes? = none) :
    Quiet s (s.dispatchEvent w ev) := by
  cases ev with
  | sendComplete => cases h
  | startComplete status id peerAccepted =>
    obtain ⟨⟨_, _, _, _, _, _, hy⟩, -, -⟩ :=
      Stream.startSide_startComplete s.inner status id peerAccepted
    refine quiet_after (congrArg (fun y => y.writePool) hy) ?_ fun _ => rfl
    simp only [Stream.handleEventStartComplete]
    split <;> rfl
  | shutdownComplete cs ac ba cr ec st =>
    by_cases hs : s.inner.state = .shutdownComplete
    · refine quiet_after ?_ ?_ fun _ => rfl
      · rw [Stream.handleEventShutdownComplete_again hs]
      · rw [Stream.handleEventShutdownComplete_again hs]
        rfl
    · obtain ⟨map, cursor, hy⟩ := Stream.handleEventShutdownComplete_frame (w := w) hs cs ac ba cr
        ec st
      refine quiet_after (congrArg (fun y => y.writePool) hy) ?_ fun _ => rfl
      rw [(Stream.handleEventShutdownComplete_first hs cs ac ba cr ec st).1]
      exact sends_reports (Stream.discardBuffers_reports _ _ _)
  | other => exact ⟨rfl, rfl, rfl, rfl⟩
  | _ => exact quiet_after rfl rfl fun _ => rfl

/-- The pieces of a write are shorter than `2 ^ 32`, and a completion names a box that MsQuic
has. -/
structure SendContract (s : StreamSys R ω) (l : StreamLabel ω) : Prop where
  pieces : ∀ pieces, l.pieces? = some pieces → ∀ c ∈ pieces, c.length < 2 ^ 32
  completes : ∀ ptr, l.completes? = some ptr → ∃ b ∈ s.native, b.ptr = ptr

theorem call_puts {op : StreamOp ω} {pieces : List Bytes} (hp : op.pieces? = some pieces) :
    ∃ cx extraFlags writeFn fin fresh native,
      Puts writeFn pieces fin ∧ op.fresh? = some fresh ∧
      s.call w op = s.after ((Stream.pollWriteGeneric s.inner cx extraFlags writeFn fresh
        native).lift id Stream.countWritten) .write := by
  cases op with
  | pollWrite cx buf fin extraFlags fresh native =>
    cases hp
    exact ⟨cx, extraFlags, _, fin, fresh, native, Stream.puts_putSliceFn buf fin, rfl, rfl⟩
  | pollWriteChunk cx chunk fin extraFlags fresh native =>
    cases hp
    exact ⟨cx, extraFlags, _, fin, fresh, native, Stream.puts_putChunkFn chunk fin, rfl, rfl⟩
  | pollWriteChunks cx chunks fin extraFlags fresh native =>
    cases hp
    exact ⟨cx, extraFlags, _, fin, fresh, native, Stream.puts_putChunksFn _ fin, rfl, rfl⟩
  | _ => cases hp

theorem step_write {op : StreamOp ω} {pieces : List Bytes} (hp : op.pieces? = some pieces)
    (hlen : ∀ c ∈ pieces, c.length < 2 ^ 32) :
    BoxStep s.boxes op.fresh? (MsquicAsync.sends (s.call w op).calls) none
        (s.call w op).state.boxes ∧
      ((∀ b ∈ s.inner.writePool, b.Empty) →
        SendExact (some pieces) (MsquicAsync.sends (s.call w op).calls)
          (s.call w op).result.written?) := by
  obtain ⟨cx, extraFlags, writeFn, fin, fresh, native, hput, hfresh, hcall⟩ :=
    call_puts (w := w) (s := s) hp
  have hs := Stream.writeStep_pollWriteGeneric s.inner extraFlags fresh native cx
    (hput.writes hlen)
  rw [hcall, hfresh]
  exact ⟨hs.boxes _, hs.exact⟩

omit [RangeSet R] [WillWake ω] [StatusApi] in
theorem Quiet.boxStep {r : Ran (StreamSys R ω) ω StreamCall StreamRes} (h : Quiet s r)
    (fresh : Option Nat) :
    BoxStep s.boxes fresh (MsquicAsync.sends r.calls) none r.state.boxes := by
  have hb : r.state.boxes = s.boxes := by rw [boxes, h.pool, h.native, boxes]
  rw [h.sends, hb]
  exact .idle _

/-- **What a step of a stream does to its boxes, and what it sends.** -/
theorem step_boxes {l : StreamLabel ω} (h : SendContract s l) :
    BoxStep s.boxes l.fresh? (MsquicAsync.sends (s.step w l).calls) l.completes?
        (s.step w l).state.boxes ∧
      ((∀ b ∈ s.inner.writePool, b.Empty) →
        SendExact l.pieces? (MsquicAsync.sends (s.step w l).calls)
          (s.step w l).result.written?) := by
  have hquiet (hq : Quiet s (s.step w l)) (hc : l.completes? = none) :
      BoxStep s.boxes l.fresh? (MsquicAsync.sends (s.step w l).calls) l.completes?
          (s.step w l).state.boxes ∧
        ((∀ b ∈ s.inner.writePool, b.Empty) →
          SendExact l.pieces? (MsquicAsync.sends (s.step w l).calls)
            (s.step w l).result.written?) := by
    refine ⟨hc ▸ hq.boxStep _, fun _ => ?_⟩
    rw [hq.sends, hq.written]
    exact sendExact_none _
  cases l with
  | call op =>
    cases hp : op.pieces? with
    | none => exact hquiet (quiet_call hp) rfl
    | some pieces =>
      obtain ⟨hb, hx⟩ := step_write (w := w) (s := s) hp (h.pieces _ hp)
      refine ⟨hb, fun he => ?_⟩
      have hexact := hx he
      rw [← hp] at hexact
      exact hexact
  | event ev =>
    cases hc : (StreamLabel.event ev : StreamLabel ω).completes? with
    | none => exact hc ▸ hquiet (quiet_event hc) hc
    | some ptr =>
      cases ev with
      | sendComplete canceled clientContext =>
        cases hc
        obtain ⟨b, native, hf⟩ := WriteBuffer.exists_fromRaw (h.completes _ rfl)
        have hstep : s.step w (.event (.sendComplete canceled ptr)) =
            { s with native := native }.after (Stream.handleEventSendComplete s.inner b)
              .callback := by
          simp only [step, dispatchEvent, hf]
        rw [hstep]
        refine ⟨?_, fun _ => sendExact_none _⟩
        show BoxStep _ _ [] _ ⟨b.reset :: s.inner.writePool, native ++ []⟩
        rw [List.append_nil]
        exact .completed hf
      | _ => cases hc

end StreamSys

end MsquicAsync
