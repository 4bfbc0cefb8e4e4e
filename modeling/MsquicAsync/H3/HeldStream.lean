import MsquicAsync.Lib.Runs
import MsquicAsync.H3.Streams

/-!
# Methods that need a lent stream

While a poll is pending the stored future has the stream. The polls go on with
it, but every other method unwraps the empty slot and panics: exactly when the
last poll of its half was pending. Nothing else can go wrong with the slot; the
first future and one that has answered are never polled.
-/

namespace MsquicAsync.H3

open Runs

/-! ## Runs -/

/-- A method of the adapters, with what the underlying stream answers. -/
inductive Op (β : Type) where
  | pollData (answer : Poll (Except ReadError (Option StreamRecvBuffer)))
  | stopSending (errorCode : UInt64)
  | recvId (id : Option UInt64) (valid : Bool)
  | sendData (data : β)
  | pollReady (answers : List (Except WriteError Nat))
  | pollFinish (answer : Poll (Except WriteError Unit))
  | reset (resetCode : UInt64)
  | sendId (id : Option UInt64) (valid : Bool)

inductive Res where
  | pollData (r : Outcome (Poll (Except (StreamErrorIncoming ReadError) (Option StreamRecvBuffer))))
  | sendData (r : Outcome (Except (StreamErrorIncoming WriteError) Unit))
  | pollSend (r : Outcome (Poll (Except (StreamErrorIncoming WriteError) Unit)))
  | id (r : Outcome UInt64)
  | unit (r : Outcome Unit)

/-- The poll is pending. -/
def Res.Pending : Res → Prop
  | pollData r => r = .returned .pending
  | pollSend r => r = .returned .pending
  | _ => False

/-- The method panics on the slot of its stream: it is empty, or holds a future that must not
be polled. -/
def panicsOnSlot {ρ : Type} (r : Outcome ρ) : Prop :=
  r = .panicked unwrapNone ∨ r = .panicked enteredUnreachable ∨ r = .panicked resumedAnswered

def Res.PanicsOnSlot : Res → Prop
  | pollData r => panicsOnSlot r
  | sendData r => panicsOnSlot r
  | pollSend r => panicsOnSlot r
  | id r => panicsOnSlot r
  | unit r => panicsOnSlot r

namespace BidiStream

variable {σ β : Type} [Buf β] [StatusApi]

def step (s : BidiStream σ β) : Op β → Ran (BidiStream σ β) Empty (StreamUse σ) Res
  | .pollData answer => (s.recv.pollData answer).lift (fun x => { s with recv := x }) .pollData
  | .stopSending errorCode =>
    (s.recv.stopSending errorCode).lift (fun x => { s with recv := x }) .unit
  | .recvId id valid => (s.recv.recvId id valid).lift (fun x => { s with recv := x }) .id
  | .sendData data => (s.send.sendData data).lift (fun x => { s with send := x }) .sendData
  | .pollReady answers => (s.send.pollReady answers).lift (fun x => { s with send := x }) .pollSend
  | .pollFinish answer => (s.send.pollFinish answer).lift (fun x => { s with send := x }) .pollSend
  | .reset resetCode => (s.send.reset resetCode).lift (fun x => { s with send := x }) .unit
  | .sendId id valid => (s.send.sendId id valid).lift (fun x => { s with send := x }) .id

end BidiStream

abbrev H3Step (σ β : Type) := Step (BidiStream σ β) (Op β) (Out Empty (StreamUse σ) Res)

/-- Any methods of both halves, in any order. -/
def adapters (σ β : Type) [Buf β] [StatusApi] :
    System (BidiStream σ β) (Op β) (Out Empty (StreamUse σ) Res) where
  init s := ∃ read write, s = ⟨.new write, .new read⟩
  ok _ _ _ := True
  next s op := ((s.step op).state, (s.step op).toOut)

/-! ## The last poll -/

section

variable {σ β : Type}

/-- The last `poll_data` was pending. -/
def ReadPending : List (H3Step σ β) → Prop
  | [] => False
  | e :: tr =>
    match e.label with
    | .pollData _ => e.out.result.Pending
    | _ => ReadPending tr

/-- The last `poll_ready` was pending. -/
def WritePending : List (H3Step σ β) → Prop
  | [] => False
  | e :: tr =>
    match e.label with
    | .pollReady _ => e.out.result.Pending
    | _ => WritePending tr

/-- The methods that unwrap the stream of the receiving half. -/
def Op.UnwrapsRead : Op β → Prop
  | stopSending _ | recvId _ _ => True
  | _ => False

/-- The methods that unwrap the stream of the sending half. -/
def Op.UnwrapsWrite : Op β → Prop
  | pollFinish _ | reset _ | sendId _ _ => True
  | _ => False

/-- The stream is in the struct, or with a running future. -/
def RecvStream.Held (x : RecvStream σ) : Prop :=
  x.stream = none → ∃ stream, x.readChunkFut = .running stream

/-- The stream is in the struct, or with a running future and something left to write. -/
def SendStream.Held [Buf β] (x : SendStream σ β) : Prop :=
  x.stream = none → (∃ held, x.writeFut = .running held) ∧
    ∃ data, x.writing = some data ∧ Buf.remaining data ≠ 0

/-! ## What each method does -/

theorem not_panicsOnSlot_returned {ρ : Type} {a : ρ} : ¬ panicsOnSlot (.returned a) := by
  rintro (h | h | h) <;> cases h

theorem streamId_not_panicsOnSlot (id : Option UInt64) (valid : Bool) :
    ¬ panicsOnSlot (streamId id valid) := by
  unfold panicsOnSlot
  cases id <;> cases valid <;> simp [streamId, unwrapNone, enteredUnreachable, resumedAnswered]

theorem error_answer {ε α : Type} {o : Outcome ε}
    (h : ∀ message, o = .panicked message → message = unwrapErr) :
    ¬ panicsOnSlot (o.map fun e => (.ready (.error e) : Poll (Except ε α))) ∧
      (o.map fun e => (.ready (.error e) : Poll (Except ε α))) ≠ .returned .pending := by
  cases o with
  | returned e => exact ⟨not_panicsOnSlot_returned, (fun h => by cases h)⟩
  | panicked message =>
    rw [h message rfl]
    refine ⟨?_, (fun h => by cases h)⟩
    simp [panicsOnSlot, unwrapErr, unwrapNone, enteredUnreachable, resumedAnswered]

theorem map_panicked {α γ : Type} {f : α → γ} {o : Outcome α} {message : String}
    (h : o.map f = .panicked message) : o = .panicked message := by
  cases o with
  | returned a => cases h
  | panicked m =>
    cases h
    rfl

variable [StatusApi]

theorem convertConnectionError_panicked {e : ConnectionError} {message : String}
    (h : convertConnectionError e = .panicked message) : message = unwrapErr := by
  unfold convertConnectionError at h
  split at h
  · cases h
  · split at h
    · cases h
      rfl
    all_goals cases h
  · cases h

theorem convertReadError_panicked (e : ReadError) (message : String)
    (h : convertReadError e = .panicked message) : message = unwrapErr := by
  unfold convertReadError at h
  split at h
  · cases h
  · exact convertConnectionError_panicked (map_panicked h)
  · cases h

theorem convertWriteError_panicked (e : WriteError) (message : String)
    (h : convertWriteError e = .panicked message) : message = unwrapErr := by
  unfold convertWriteError at h
  split at h
  · cases h
  · exact convertConnectionError_panicked (map_panicked h)
  · cases h

omit [StatusApi] in
theorem RecvStream.lend_eq {x : RecvStream σ} (h : x.Held) :
    ∃ stream, x.lend = { stream := none, readChunkFut := .running stream } := by
  unfold lend
  cases hs : x.stream with
  | some stream => exact ⟨stream, rfl⟩
  | none =>
    obtain ⟨stream, hf⟩ := h hs
    refine ⟨stream, ?_⟩
    cases x
    simp only at hs hf
    rw [hs, hf]

theorem RecvStream.pollData_spec {x : RecvStream σ} (h : x.Held)
    (answer : Poll (Except ReadError (Option StreamRecvBuffer))) :
    (x.pollData answer).state.Held ∧
      ((x.pollData answer).state.stream = none ↔ (x.pollData answer).result = .returned .pending) ∧
      ¬ panicsOnSlot (x.pollData answer).result := by
  obtain ⟨stream, hlend⟩ := lend_eq h
  simp only [pollData, hlend]
  cases answer with
  | pending => exact ⟨fun _ => ⟨stream, rfl⟩, iff_of_true rfl rfl, not_panicsOnSlot_returned⟩
  | ready chunk =>
    refine ⟨(fun hs => by cases hs), ?_⟩
    cases chunk with
    | error e =>
      obtain ⟨hp, hne⟩ := error_answer (α := Option StreamRecvBuffer) (convertReadError_panicked e)
      exact ⟨iff_of_false (fun hs => by cases hs) hne, hp⟩
    | ok chunk =>
      exact ⟨iff_of_false (fun hs => by cases hs) (fun hs => by cases hs),
        not_panicsOnSlot_returned⟩

variable [Buf β]

omit [StatusApi] [Buf β] in
theorem SendStream.lend_eq {x : SendStream σ β}
    (h : x.stream = none → ∃ held, x.writeFut = .running held) (chunk : Bytes) :
    ∃ stream held, x.lend chunk =
      { stream := none, writing := x.writing, writeFut := .running (stream, held) } := by
  unfold lend
  cases hs : x.stream with
  | some stream => exact ⟨stream, chunk, rfl⟩
  | none =>
    obtain ⟨⟨stream, held⟩, hf⟩ := h hs
    refine ⟨stream, held, ?_⟩
    cases x
    simp only at hs hf
    rw [hs, hf]

theorem SendStream.pollReadyLoop_done {x : SendStream σ β} {data : β}
    (hr : Buf.remaining data = 0) (answers : List (Except WriteError Nat)) :
    x.pollReadyLoop data answers =
      { state := { x with writing := none }, result := .returned (.ready (.ok ())) } := by
  rw [pollReadyLoop, if_pos hr]

theorem SendStream.pollReadyLoop_spec {x : SendStream σ β} {data : β}
    (h : x.stream = none → (∃ held, x.writeFut = .running held) ∧ Buf.remaining data ≠ 0)
    (answers : List (Except WriteError Nat)) :
    (x.pollReadyLoop data answers).state.Held ∧
      ((x.pollReadyLoop data answers).state.stream = none ↔
        (x.pollReadyLoop data answers).result = .returned .pending) ∧
      ¬ panicsOnSlot (x.pollReadyLoop data answers).result := by
  have hdone (answers : List (Except WriteError Nat)) {x : SendStream σ β} {data : β}
      (h : x.stream = none → (∃ held, x.writeFut = .running held) ∧ Buf.remaining data ≠ 0)
      (hr : Buf.remaining data = 0) :
      (x.pollReadyLoop data answers).state.Held ∧
        ((x.pollReadyLoop data answers).state.stream = none ↔
          (x.pollReadyLoop data answers).result = .returned .pending) ∧
        ¬ panicsOnSlot (x.pollReadyLoop data answers).result := by
    have hs : x.stream ≠ none := fun hs => (h hs).2 hr
    rw [pollReadyLoop_done hr]
    exact ⟨fun hn => absurd hn hs, iff_of_false hs (fun hp => by cases hp),
      not_panicsOnSlot_returned⟩
  induction answers generalizing x data with
  | nil =>
    by_cases hr : Buf.remaining data = 0
    · exact hdone [] h hr
    · obtain ⟨stream, held, hlend⟩ := lend_eq (fun hs => (h hs).1) (Buf.chunk data)
      simp only [pollReadyLoop, hr, if_false, hlend]
      exact ⟨fun _ => ⟨⟨_, rfl⟩, data, rfl, hr⟩, trivial, not_panicsOnSlot_returned⟩
  | cons answer answers ih =>
    by_cases hr : Buf.remaining data = 0
    · exact hdone (answer :: answers) h hr
    · obtain ⟨stream, held, hlend⟩ := lend_eq (fun hs => (h hs).1) (Buf.chunk data)
      rw [pollReadyLoop, if_neg hr]
      simp only [hlend]
      cases answer with
      | error e =>
        obtain ⟨hp, hne⟩ := error_answer (α := Unit) (convertWriteError_panicked e)
        exact ⟨(fun hs => by cases hs), iff_of_false (fun hs => by cases hs) hne, hp⟩
      | ok cnt =>
        simp only
        cases Buf.advance data cnt with
        | none =>
          refine ⟨(fun hs => by cases hs),
            iff_of_false (fun hs => by cases hs) (fun hs => by cases hs), ?_⟩
          simp [panicsOnSlot, advancedTooFar, unwrapNone, enteredUnreachable, resumedAnswered]
        | some data => exact ih (fun hs => by cases hs)

theorem SendStream.pollReady_spec {x : SendStream σ β} (h : x.Held)
    (answers : List (Except WriteError Nat)) :
    (x.pollReady answers).state.Held ∧
      ((x.pollReady answers).state.stream = none ↔
        (x.pollReady answers).result = .returned .pending) ∧
      ¬ panicsOnSlot (x.pollReady answers).result := by
  unfold pollReady
  split
  next data hw =>
    refine pollReadyLoop_spec (fun hs => ?_) answers
    obtain ⟨hf, data', hd, hr⟩ := h hs
    rw [hw] at hd
    cases hd
    exact ⟨hf, hr⟩
  next hw =>
    have hs : x.stream ≠ none := by
      intro hs
      obtain ⟨-, data, hd, -⟩ := h hs
      rw [hw] at hd
      cases hd
    exact ⟨h, iff_of_false hs (fun hp => by cases hp), not_panicsOnSlot_returned⟩

/-! ## Runs of the adapters -/

/-- What holds after a history: a half has lent its stream while its last poll was pending. -/
structure Inv (tr : List (H3Step σ β)) (s : BidiStream σ β) : Prop where
  recv : s.recv.Held
  send : s.send.Held
  read : s.recv.stream = none ↔ ReadPending tr
  write : s.send.stream = none ↔ WritePending tr

variable {tr : List (H3Step σ β)} {s : BidiStream σ β}

theorem BidiStream.step_state {op : Op β} (h : op.UnwrapsRead ∨ op.UnwrapsWrite) :
    (s.step op).state = s := by
  cases op with
  | stopSending errorCode =>
    simp only [step, RecvStream.stopSending]
    split <;> rfl
  | recvId id valid =>
    simp only [step, RecvStream.recvId]
    split <;> rfl
  | pollFinish answer =>
    simp only [step, SendStream.pollFinish]
    split <;> rfl
  | reset resetCode =>
    simp only [step, SendStream.reset]
    split <;> rfl
  | sendId id valid =>
    simp only [step, SendStream.sendId]
    split <;> rfl
  | _ => exact (h.elim id id).elim

omit [StatusApi] in
theorem SendStream.held_sendData {x : SendStream σ β} (h : x.Held) (data : β) :
    (x.sendData data).state.Held ∧ (x.sendData data).state.stream = x.stream := by
  unfold sendData
  split
  · exact ⟨h, rfl⟩
  next hw =>
    refine ⟨fun hs => ?_, rfl⟩
    obtain ⟨-, data', hd, -⟩ := h hs
    rw [hd] at hw
    exact absurd rfl hw

theorem Inv.step (h : Inv tr s) (op : Op β) :
    Inv ((adapters σ β).take s op :: tr) (s.step op).state := by
  have hstay (hu : op.UnwrapsRead ∨ op.UnwrapsWrite)
      (hr : ReadPending ((adapters σ β).take s op :: tr) ↔ ReadPending tr)
      (hw : WritePending ((adapters σ β).take s op :: tr) ↔ WritePending tr) :
      Inv ((adapters σ β).take s op :: tr) (s.step op).state := by
    rw [BidiStream.step_state hu]
    exact ⟨h.recv, h.send, h.read.trans hr.symm, h.write.trans hw.symm⟩
  cases op with
  | pollData answer =>
    obtain ⟨hheld, hread, -⟩ := RecvStream.pollData_spec h.recv answer
    exact ⟨hheld, h.send, hread, h.write⟩
  | pollReady answers =>
    obtain ⟨hheld, hwrite, -⟩ := SendStream.pollReady_spec h.send answers
    exact ⟨h.recv, hheld, h.read, hwrite⟩
  | sendData data =>
    obtain ⟨hheld, hs⟩ := SendStream.held_sendData h.send data
    refine ⟨h.recv, hheld, h.read, ?_⟩
    show (s.send.sendData data).state.stream = none ↔ _
    rw [hs]
    exact h.write
  | stopSending | recvId => exact hstay (.inl trivial) Iff.rfl Iff.rfl
  | pollFinish | reset | sendId => exact hstay (.inr trivial) Iff.rfl Iff.rfl

theorem run_inv (h : (adapters σ β).Run tr s) : Inv tr s :=
  h.invariant
    (fun s hi => by
      obtain ⟨read, write, rfl⟩ := hi
      exact ⟨(fun hs => by cases hs), (fun hs => by cases hs),
        iff_of_false (fun hs => by cases hs) id, iff_of_false (fun hs => by cases hs) id⟩)
    fun tr s op _ _ hi => hi.step op

theorem BidiStream.panics_read {op : Op β} (h : op.UnwrapsRead) :
    (s.step op).result.PanicsOnSlot ↔ s.recv.stream = none := by
  cases op with
  | stopSending errorCode =>
    simp only [step, RecvStream.stopSending]
    cases s.recv.stream with
    | none => exact iff_of_true (.inl rfl) rfl
    | some stream => exact iff_of_false not_panicsOnSlot_returned (fun hs => by cases hs)
  | recvId id valid =>
    simp only [step, RecvStream.recvId]
    cases s.recv.stream with
    | none => exact iff_of_true (.inl rfl) rfl
    | some stream =>
      exact iff_of_false (streamId_not_panicsOnSlot id valid) (fun hs => by cases hs)
  | _ => exact h.elim

theorem BidiStream.panics_write {op : Op β} (h : op.UnwrapsWrite) :
    (s.step op).result.PanicsOnSlot ↔ s.send.stream = none := by
  cases op with
  | pollFinish answer =>
    simp only [step, SendStream.pollFinish]
    cases s.send.stream with
    | none => exact iff_of_true (.inl rfl) rfl
    | some stream =>
      refine iff_of_false ?_ (fun hs => by cases hs)
      cases answer with
      | pending => exact not_panicsOnSlot_returned
      | ready res =>
        cases res with
        | ok _ => exact not_panicsOnSlot_returned
        | error e => exact (error_answer (α := Unit) (convertWriteError_panicked e)).1
  | reset resetCode =>
    simp only [step, SendStream.reset]
    cases s.send.stream with
    | none => exact iff_of_true (.inl rfl) rfl
    | some stream => exact iff_of_false not_panicsOnSlot_returned (fun hs => by cases hs)
  | sendId id valid =>
    simp only [step, SendStream.sendId]
    cases s.send.stream with
    | none => exact iff_of_true (.inl rfl) rfl
    | some stream =>
      exact iff_of_false (streamId_not_panicsOnSlot id valid) (fun hs => by cases hs)
  | _ => exact h.elim

/-- **One method** panics on its stream exactly when it unwraps one that is lent. -/
theorem Inv.panics_iff (h : Inv tr s) (op : Op β) :
    (s.step op).result.PanicsOnSlot ↔
      (op.UnwrapsRead ∧ ReadPending tr) ∨ (op.UnwrapsWrite ∧ WritePending tr) := by
  have hread (hr : op.UnwrapsRead) (hw : ¬ op.UnwrapsWrite) :
      (s.step op).result.PanicsOnSlot ↔
        (op.UnwrapsRead ∧ ReadPending tr) ∨ (op.UnwrapsWrite ∧ WritePending tr) := by
    rw [BidiStream.panics_read hr, h.read]
    simp only [hr, hw, true_and, false_and, or_false]
  have hwrite (hr : ¬ op.UnwrapsRead) (hw : op.UnwrapsWrite) :
      (s.step op).result.PanicsOnSlot ↔
        (op.UnwrapsRead ∧ ReadPending tr) ∨ (op.UnwrapsWrite ∧ WritePending tr) := by
    rw [BidiStream.panics_write hw, h.write]
    simp only [hr, hw, true_and, false_and, false_or]
  have hnever (hp : ¬ (s.step op).result.PanicsOnSlot) (hr : ¬ op.UnwrapsRead)
      (hw : ¬ op.UnwrapsWrite) :
      (s.step op).result.PanicsOnSlot ↔
        (op.UnwrapsRead ∧ ReadPending tr) ∨ (op.UnwrapsWrite ∧ WritePending tr) := by
    simp only [hp, hr, hw, false_and, or_false]
  cases op with
  | pollData answer => exact hnever (RecvStream.pollData_spec h.recv answer).2.2 id id
  | pollReady answers => exact hnever (SendStream.pollReady_spec h.send answers).2.2 id id
  | sendData data =>
    refine hnever ?_ id id
    simp only [BidiStream.step, SendStream.sendData]
    split <;> exact not_panicsOnSlot_returned
  | stopSending | recvId => exact hread trivial id
  | pollFinish | reset | sendId => exact hwrite id trivial

/-- **No method panics on a stream that is lent, exactly when** none that unwraps its stream
comes while the last poll of its half was pending. -/
theorem adapters_find_stream_iff (h : (adapters σ β).Run tr s) :
    (∀ e ∈ tr, ¬ e.out.result.PanicsOnSlot) ↔
      ∀ e tr', e :: tr' <:+ tr →
        (e.label.UnwrapsRead → ¬ ReadPending tr') ∧
          (e.label.UnwrapsWrite → ¬ WritePending tr') := by
  have hstep {e : H3Step σ β} {tr' : List (H3Step σ β)} (hsuf : e :: tr' <:+ tr) :
      ¬ e.out.result.PanicsOnSlot ↔
        (e.label.UnwrapsRead → ¬ ReadPending tr') ∧
          (e.label.UnwrapsWrite → ¬ WritePending tr') := by
    obtain ⟨hr, -, he⟩ := h.of_suffix hsuf
    have hiff := (run_inv hr).panics_iff e.label
    rw [he]
    show ¬ (e.pre.step e.label).result.PanicsOnSlot ↔ _
    rw [hiff, not_or, not_and, not_and]
    rfl
  constructor
  · exact fun hp e tr' hsuf => (hstep hsuf).mp (hp e (hsuf.subset List.mem_cons_self))
  · intro hc e he
    obtain ⟨l₁, l₂, hl⟩ := List.append_of_mem he
    have hsuf : e :: l₂ <:+ tr := ⟨l₁, hl.symm⟩
    exact (hstep hsuf).mpr (hc e l₂ hsuf)

end

/-- A read stays pending, is polled until it answers, and only then is the stream stopped. -/
theorem adapters_find_stream_stop :
    ∃ (tr : List (H3Step Nat Bytes)) (s : BidiStream Nat Bytes),
      (adapters Nat Bytes).Run tr s ∧
      tr.map Step.label =
        [.stopSending 0, .pollData (.ready (.ok none)), .pollData .pending] ∧
      ∀ e ∈ tr, ¬ e.out.result.PanicsOnSlot := by
  have h0 := System.Run.start (S := adapters Nat Bytes) ⟨1, 2, rfl⟩
  have h1 := ((h0.step (.pollData .pending) trivial).step (.pollData (.ready (.ok none)))
    trivial).step (.stopSending 0) trivial
  refine ⟨_, _, h1, rfl, (adapters_find_stream_iff h1).mpr ?_⟩
  simp only [forall_suffix_cons]
  refine ⟨⟨fun _ hp => ?_, False.elim⟩, ⟨False.elim, False.elim⟩, ⟨False.elim, False.elim⟩,
    forall_suffix_nil⟩
  cases hp

/-- A read stays pending and its task gives it up; stopping the stream then panics. -/
theorem stop_sending_while_reading :
    ∃ (tr : List (H3Step Nat Bytes)) (s : BidiStream Nat Bytes),
      (adapters Nat Bytes).Run tr s ∧
      tr.map Step.label = [.stopSending 0, .pollData .pending] ∧
      ∃ e ∈ tr, e.out.result.PanicsOnSlot := by
  have h0 := System.Run.start (S := adapters Nat Bytes) ⟨1, 2, rfl⟩
  have h1 := (h0.step (.pollData .pending) trivial).step (.stopSending 0) trivial
  exact ⟨_, _, h1, rfl, _, List.mem_cons_self, .inl rfl⟩

end MsquicAsync.H3
