import MsquicAsync.Buffer.Cursor
import MsquicAsync.Pipe
import MsquicAsync.H3.HeldStream
import MsquicAsync.H3.Payload

/-!
# A body, end to end

The adapters for HTTP/3 at both ends of one stream. `Sending` says what history
a `SendStream` makes of its stream when its user calls `send_data` and
`poll_ready`: each write of the loop is a write of the stream, and what the
stream answers is what the loop sees (`Serves`). `Receiving` says the same of a
`RecvStream` and `poll_data`. Between the two is the pipe, and so the data that
`poll_data` hands out is the front of what `send_data` was given, and it answers
with `None` only at its end (`body_in_order`).
-/

namespace MsquicAsync

/-- What one poll has answered. -/
def Poll.answers {α : Type} : Poll α → List α
  | pending => []
  | ready a => [a]

namespace H3

open Runs Ranges System

variable {R ω β : Type}

/-! ## The sender -/

section

variable [RangeSet R] [WillWake ω] [StatusApi]

/-- The write of a stream that `poll_ready` polls. -/
def write (cx : ω) (chunk : Bytes) (fresh : Nat) (native : NativeResult) : StreamLabel ω :=
  .call (.pollWrite cx chunk false .NONE fresh native)

/-- The stream answers the calls of one poll, one after the other; the last one may be pending. -/
inductive Serves (w : Nat) : List (StreamStep R ω) → StreamSys R ω → List (StreamUse Unit) →
    List (Except WriteError Nat) → List (StreamStep R ω) → StreamSys R ω → Prop where
  | nil {tr : List (StreamStep R ω)} {s : StreamSys R ω} : Serves w tr s [] [] tr s
  | pending {tr : List (StreamStep R ω)} {s : StreamSys R ω} (cx : ω) (chunk : Bytes) (fresh : Nat)
    (native : NativeResult)
    (h : (s.step w (write cx chunk fresh native)).result = .write (.returned .pending)) :
    Serves w tr s [.pollWrite () chunk] []
      ((streamSystem w WriterContract).take s (write cx chunk fresh native) :: tr)
      (s.step w (write cx chunk fresh native)).state
  | answer {tr tr' : List (StreamStep R ω)} {s s' : StreamSys R ω} {calls : List (StreamUse Unit)}
    {answers : List (Except WriteError Nat)} (cx : ω) (chunk : Bytes) (fresh : Nat)
    (native : NativeResult) (a : Except WriteError Nat)
    (h : (s.step w (write cx chunk fresh native)).result = .write (.returned (.ready a)))
    (hrest : Serves w
      ((streamSystem w WriterContract).take s (write cx chunk fresh native) :: tr)
      (s.step w (write cx chunk fresh native)).state calls answers tr' s') :
    Serves w tr s (.pollWrite () chunk :: calls) (a :: answers) tr' s'

variable [Buf β] [LawfulBuf β]

/-- What a `SendStream` has made of its stream after it was given some bytes: by `send_data`
all of a buffer, by `poll_send` what was accepted of one. Its other methods do not change it, and
what they ask of the stream, like anything that others ask, writes nothing. -/
inductive Sending (w : Nat) : Bytes → SendStream Unit β → List (StreamStep R ω) → StreamSys R ω →
    Prop where
  | new {s : StreamSys R ω} (hs : StreamSys.Init s) : Sending w [] (.new ()) [] s
  | other {given : Bytes} {x : SendStream Unit β} {tr : List (StreamStep R ω)} {s : StreamSys R ω}
    (l : StreamLabel ω) (h : Sending w given x tr s) (hl : l.pieces? = none) :
    Sending w given x ((streamSystem w WriterContract).take s l :: tr) (s.step w l).state
  | sendData {given : Bytes} {x : SendStream Unit β} {tr : List (StreamStep R ω)}
    {s : StreamSys R ω} (data : β) (h : Sending w given x tr s)
    (hr : (x.sendData data).result = .returned (.ok ())) :
    Sending w (given ++ content data) (x.sendData data).state tr s
  | refused {given : Bytes} {x : SendStream Unit β} {tr : List (StreamStep R ω)}
    {s : StreamSys R ω} (data : β) (h : Sending w given x tr s)
    (hr : (x.sendData data).result ≠ .returned (.ok ())) :
    Sending w given (x.sendData data).state tr s
  | pollReady {given : Bytes} {x : SendStream Unit β} {tr tr' : List (StreamStep R ω)}
    {s s' : StreamSys R ω} {answers : List (Except WriteError Nat)} (h : Sending w given x tr s)
    (hs : Serves w tr s (x.pollReady answers).calls answers tr' s') :
    Sending w given (x.pollReady answers).state tr' s'
  | pollSend {given : Bytes} {x : SendStream Unit β} {tr tr' : List (StreamStep R ω)}
    {s s' : StreamSys R ω} {δ : Type} [Buf δ] (buf : δ) (answer : Poll (Except WriteError Nat))
    (h : Sending w given x tr s)
    (hs : Serves w tr s (x.pollSend buf answer).calls answer.answers tr' s') :
    Sending w (given ++ acceptedBy (x.pollSend buf answer).calls answer.answers)
      (x.pollSend buf answer).state tr' s'

end

/-- What `writing` has left. -/
def SendStream.unsent [Buf β] [LawfulBuf β] {σ : Type} (x : SendStream σ β) : Bytes :=
  (x.writing.map content).getD []

section

variable [RangeSet R] [WillWake ω] [StatusApi] {w : Nat} {tr tr' : List (StreamStep R ω)}
  {s s' : StreamSys R ω} {calls : List (StreamUse Unit)} {answers : List (Except WriteError Nat)}

theorem run_tail {ok : StreamContract R ω} {e : StreamStep R ω}
    (h : (streamSystem w ok).Run (e :: tr) s') :
    (streamSystem w ok).Run tr e.pre ∧ ok tr e.pre e.label :=
  ⟨(h.of_suffix (List.suffix_refl _)).1, (h.of_suffix (List.suffix_refl _)).2.1⟩

/-- A write that answers has written its chunk, or it has failed and written nothing. -/
theorem writes_write (h : (streamSystem w WriterContract).Run tr s) {cx : ω} {chunk : Bytes}
    {fresh : Nat} {native : NativeResult}
    (hok : StreamSys.SendContract s (write cx chunk fresh native)) {a : Except WriteError Nat}
    (hr : (s.step w (write cx chunk fresh native)).result = .write (.returned (.ready a))) :
    (∃ e, a = .error e ∧
        (write cx chunk fresh native).writes (s.step w (write cx chunk fresh native)).result = []) ∨
      (a = .ok chunk.length ∧
        (write cx chunk fresh native).writes (s.step w (write cx chunk fresh native)).result =
          chunk) := by
  rw [hr]
  cases a with
  | error e => exact .inl ⟨e, rfl, rfl⟩
  | ok n =>
    have hpool : ∀ b ∈ s.inner.writePool, b.Empty := twins_self.mp (StreamTwins.run h).inner
    obtain ⟨-, hexact⟩ := StreamSys.step_boxes (w := w) hok
    obtain ⟨m, input, -, -, hp, hn⟩ := (hexact hpool).count n (by rw [hr]; rfl)
    obtain rfl : [chunk] = input := Option.some.inj hp
    rw [List.flatten_singleton] at hn
    exact .inr ⟨by rw [hn], List.flatten_singleton⟩

omit [StatusApi] in
theorem acceptedBy_nil {σ : Type} : acceptedBy ([] : List (StreamUse σ)) answers = [] := by
  cases answers <;> rfl

theorem Serves.written (h : Serves w tr s calls answers tr' s')
    (hrun : (streamSystem w WriterContract).Run tr' s') :
    (streamSystem w WriterContract).Run tr s ∧
      writtenBytes tr' = writtenBytes tr ++ acceptedBy calls answers := by
  induction h with
  | nil => exact ⟨hrun, (List.append_nil _).symm⟩
  | pending cx chunk fresh native h =>
    refine ⟨(run_tail hrun).1, ?_⟩
    rw [writtenBytes_cons]
    show _ ++ (write cx chunk fresh native).writes (StreamSys.step w _ _).result = _
    rw [h]
    rfl
  | @answer tr tr' s s' calls answers cx chunk fresh native a h hrest ih =>
    obtain ⟨hpost, hwritten⟩ := ih hrun
    obtain ⟨hpre, hok⟩ := run_tail hpost
    rw [writtenBytes_cons] at hwritten
    refine ⟨hpre, hwritten.trans ?_⟩
    show _ ++ (write cx chunk fresh native).writes (StreamSys.step w _ _).result ++ _ = _
    rcases writes_write (s := s) hpre hok.boxes h with ⟨e, rfl, hw⟩ | ⟨rfl, hw⟩
    · rw [hw, List.append_nil]
      rfl
    · rw [hw, acceptedBy, List.take_length, List.append_assoc]

/-- **The stream keeps the loop's contract**: it accepts each chunk whole. -/
theorem Serves.fits (h : Serves w tr s calls answers tr' s')
    (hrun : (streamSystem w WriterContract).Run tr' s')
    (hne : ∀ chunk, .pollWrite () chunk ∈ calls → chunk ≠ []) : AnswersFit calls answers := by
  induction h with
  | nil => trivial
  | pending => trivial
  | @answer tr tr' s s' calls answers cx chunk fresh native a h hrest ih =>
    have hfit := ih hrun fun c hc => hne c (List.mem_cons_of_mem _ hc)
    obtain ⟨hpre, hok⟩ := run_tail (hrest.written hrun).1
    rcases writes_write (s := s) hpre hok.boxes h with ⟨e, rfl, -⟩ | ⟨rfl, -⟩
    · exact hfit
    · have hpos : 0 < chunk.length := List.length_pos_of_ne_nil (hne chunk List.mem_cons_self)
      exact ⟨⟨hpos, Nat.le_refl _⟩, hfit⟩

end

section

variable {σ : Type} [Buf β] [StatusApi]

/-- A poll writes no empty chunk, if the buffer shows none before its end. -/
theorem SendStream.pollReadyLoop_chunks [LawfulBuf β] {x : SendStream σ β} {data : β}
    {answers : List (Except WriteError Nat)}
    (hchunk : ∀ b : β, Buf.remaining b ≠ 0 → Buf.chunk b ≠ []) (h : x.Lent data) :
    ∀ stream chunk, .pollWrite stream chunk ∈ (x.pollReadyLoop data answers).calls →
      chunk ≠ [] := by
  have hdone (answers : List (Except WriteError Nat)) {x : SendStream σ β} {data : β}
      (hr : Buf.remaining data = 0) :
      ∀ stream chunk, .pollWrite stream chunk ∈ (x.pollReadyLoop data answers).calls →
        chunk ≠ [] := by
    rw [pollReadyLoop_done hr]
    exact nofun
  induction answers generalizing x data with
  | nil =>
    by_cases hr : Buf.remaining data = 0
    · exact hdone [] hr
    obtain ⟨stream, hlend⟩ := lend_chunk h
    simp only [pollReadyLoop, hr, if_false, hlend]
    rintro _ _ hmem
    cases List.mem_singleton.mp hmem
    exact hchunk data hr
  | cons answer answers ih =>
    by_cases hr : Buf.remaining data = 0
    · exact hdone (answer :: answers) hr
    obtain ⟨stream, hlend⟩ := lend_chunk h
    rw [pollReadyLoop, if_neg hr]
    simp only [hlend]
    have hfirst {calls : List (StreamUse σ)}
        (hcalls : ∀ stream chunk, .pollWrite stream chunk ∈ calls → chunk ≠ []) :
        ∀ stream' chunk, .pollWrite stream' chunk ∈ .pollWrite stream (Buf.chunk data) :: calls →
          chunk ≠ [] := by
      intro _ _ hmem
      rcases List.mem_cons.mp hmem with heq | hmem
      · cases heq
        exact hchunk data hr
      · exact hcalls _ _ hmem
    cases answer with
    | error e => exact hfirst nofun
    | ok cnt =>
      simp only
      cases Buf.advance data cnt with
      | none => exact hfirst nofun
      | some data => exact hfirst (ih nofun)

end

section

variable [RangeSet R] [WillWake ω] [StatusApi] [Buf β] [LawfulBuf β] {w : Nat} {given : Bytes}
  {x : SendStream Unit β} {tr : List (StreamStep R ω)} {s : StreamSys R ω}

/-- Where the bytes of `send_data` are: written to the stream, or left in `writing`. -/
structure Unwritten (given : Bytes) (x : SendStream Unit β) (tr : List (StreamStep R ω)) :
    Prop where
  given : given = writtenBytes tr ++ x.unsent
  stream : x.writing = none → x.stream ≠ none
  lent : ∀ data, x.writing = some data → x.Lent data

theorem Unwritten.pollReady {answers : List (Except WriteError Nat)}
    {tr' : List (StreamStep R ω)} {s' : StreamSys R ω} (h : Unwritten given x tr)
    (hchunk : ∀ b : β, Buf.remaining b ≠ 0 → Buf.chunk b ≠ [])
    (hserves : Serves w tr s (x.pollReady answers).calls answers tr' s')
    (hrun : (streamSystem w WriterContract).Run tr' s') :
    Unwritten given (x.pollReady answers).state tr' := by
  obtain ⟨hgiven, hstream, hlent⟩ := h
  have hwritten := (hserves.written hrun).2
  unfold SendStream.pollReady at hserves hwritten ⊢
  cases hw : x.writing with
  | none =>
    simp only [hw] at hserves hwritten ⊢
    refine ⟨?_, hstream, hlent⟩
    rw [hwritten, hgiven, acceptedBy_nil, List.append_nil]
  | some data =>
    simp only [hw] at hserves hwritten ⊢
    have hfit := hserves.fits hrun fun chunk =>
      SendStream.pollReadyLoop_chunks hchunk (hlent data hw) () chunk
    have hdata : x.unsent = content data := by simp [SendStream.unsent, hw]
    rw [hdata] at hgiven
    cases (writes_pollReadyLoop (hlent data hw) hfit).inv with
    | done hw' hs hacc =>
      refine ⟨?_, fun _ => hs, (fun _ hd => by cases hw'.symm.trans hd)⟩
      simp [SendStream.unsent, hw', hgiven, hwritten, hacc]
    | @rest _ rest _ hw' hl hacc =>
      refine ⟨?_, (fun hn => by cases hw'.symm.trans hn), fun _ hd => ?_⟩
      · simp [SendStream.unsent, hw', hgiven, hwritten, hacc]
      · obtain rfl := Option.some.inj (hw'.symm.trans hd)
        exact hl

/-- **What `send_data` was given** has been written to the stream or is left to write. -/
theorem Sending.unwritten (h : Sending w given x tr s)
    (hchunk : ∀ b : β, Buf.remaining b ≠ 0 → Buf.chunk b ≠ [])
    (hrun : (streamSystem w WriterContract).Run tr s) : Unwritten given x tr := by
  induction h with
  | new => exact ⟨rfl, nofun, nofun⟩
  | other l _ hl ih =>
    obtain ⟨hgiven, hstream, hlent⟩ := ih (run_tail hrun).1
    refine ⟨hgiven.trans ?_, hstream, hlent⟩
    rw [writtenBytes_cons]
    show _ = _ ++ l.writes _ ++ _
    rw [show l.writes _ = [] by unfold StreamLabel.writes; rw [hl], List.append_nil]
  | @sendData given x tr s data _ hr ih =>
    obtain ⟨hgiven, hstream, hlent⟩ := ih hrun
    have hw : x.writing = none := by
      unfold SendStream.sendData at hr
      split at hr
      · cases hr
      · next hw => exact Option.not_isSome_iff_eq_none.mp hw
    unfold SendStream.sendData
    rw [if_neg (by rw [hw]; exact Bool.noConfusion)]
    refine ⟨?_, nofun, fun _ _ hs => absurd hs (hstream hw)⟩
    rw [hgiven]
    simp [SendStream.unsent, hw]
  | @refused given x tr s data _ hr ih =>
    unfold SendStream.sendData at hr ⊢
    split at hr
    · next hw =>
      rw [if_pos hw]
      exact ih hrun
    · exact absurd rfl hr
  | pollReady _ hs ih => exact (ih (hs.written hrun).1).pollReady hchunk hs hrun
  | @pollSend given x tr tr' s s' δ _ buf answer _ hs ih =>
    obtain ⟨hpre, hwritten⟩ := hs.written hrun
    obtain ⟨hgiven, hstream, hlent⟩ := ih hpre
    -- what it writes comes behind a payload of which nothing is left
    have hbehind : acceptedBy (x.pollSend buf answer).calls answer.answers = [] ∨
        x.unsent = [] := by
      by_cases hw : x.writing = none
      · exact .inr (by simp [SendStream.unsent, hw])
      · left
        unfold SendStream.pollSend
        rw [if_pos (Option.isSome_iff_ne_none.mpr hw)]
        exact acceptedBy_nil
    have hstate : (x.step (.pollSend buf answer)).state = x :=
      SendStream.step_state id fun _ h => by cases h
    rw [show (x.pollSend buf answer).state = x from hstate]
    refine ⟨?_, hstream, hlent⟩
    rw [hwritten, hgiven]
    rcases hbehind with hnil | hnil <;> simp [hnil]

end

/-! ## The receiver -/

/-- The bytes that `poll_data` hands out. -/
def polledBytes :
    Outcome (Poll (Except (StreamErrorIncoming ReadError) (Option StreamRecvBuffer))) → Bytes
  | .returned (.ready (.ok (some b))) => b.unread
  | _ => []

/-- What a `RecvStream` has handed out of its stream. Others do not read from it. -/
inductive Receiving [RangeSet R] [WillWake ω] [StatusApi] (w : Nat) :
    Bytes → RecvStream Unit → List (StreamStep R ω) → StreamSys R ω → Prop where
  | new {s : StreamSys R ω} (hs : StreamSys.Init s) : Receiving w [] (.new ()) [] s
  | other {data : Bytes} {y : RecvStream Unit} {tr : List (StreamStep R ω)} {s : StreamSys R ω}
    (l : StreamLabel ω) (h : Receiving w data y tr s) (hl : ∀ op, l = .call op → ¬ op.IsRead) :
    Receiving w data y ((streamSystem w DeliveryContract).take s l :: tr) (s.step w l).state
  | pollData {data : Bytes} {y : RecvStream Unit} {tr : List (StreamStep R ω)} {s : StreamSys R ω}
    (cx : ω) (answer : Poll (Except ReadError (Option StreamRecvBuffer)))
    (h : Receiving w data y tr s)
    (hr : (s.call w (.pollReadChunk cx)).result = .readChunk answer) :
    Receiving w (data ++ polledBytes (y.pollData answer).result) (y.pollData answer).state
      ((streamSystem w DeliveryContract).take s (.call (.pollReadChunk cx)) :: tr)
      (s.step w (.call (.pollReadChunk cx))).state

/-- A buffer that a read may meet is empty only when its cursor has passed all of its bytes. -/
theorem unread_of_isEmpty {b : StreamRecvBuffer} (hb : b.WellFormed)
    (hlen : b.len = b.content.length) (hlt : b.len < 2 ^ 32) (h : b.isEmpty = true) :
    b.unread = [] := by
  by_cases hle : b.buffers.length ≤ b.readCursor
  · exact StreamRecvBuffer.unread_of_exhausted hle
  have hcur := Nat.lt_of_not_le hle
  have hget := List.getElem?_eq_getElem hcur
  have hok : b.CursorOk := ⟨Nat.le_of_lt hcur, .inr ⟨_, hget, hb.1 _ hget⟩, hlen, hlt⟩
  have h0 : b.unread.length = 0 := hok.remaining_eq.symm.trans (eq_of_beq h)
  exact List.eq_nil_of_length_eq_zero h0

section

variable [RangeSet R] [LawfulRangeSet R] [WillWake ω] [StatusApi] {w : Nat} {data : Bytes}
  {y : RecvStream Unit} {tr : List (StreamStep R ω)} {s : StreamSys R ω}

omit [LawfulRangeSet R] [RangeSet R] [StatusApi] in
theorem pollReadChunk_some {x : StreamInner R ω} {cx : ω} {b : StreamRecvBuffer}
    (h : (Stream.pollReadChunk x cx).result.poll = .ready (.ok (some b))) :
    ∃ b₀ rest, x.recvBuffers = b₀ :: rest ∧ b = b₀.setStream ∧
      (b.fin = true → (Stream.pollReadChunk x cx).state.recvState = .shutdown) := by
  unfold Stream.pollReadChunk Stream.pollReadGeneric at h ⊢
  cases hs : x.recvState with
  | startComplete =>
    rw [hs] at h
    cases hq : x.recvBuffers with
    | nil =>
      rw [hq] at h
      cases h
    | cons b₀ rest =>
      rw [hq] at h
      refine ⟨b₀, rest, rfl, ?_⟩
      cases hf : b₀.fin
      · simp only [Stream.popChunk, ReadStatus.ofPair, hf] at h ⊢
        cases h
        exact ⟨rfl, fun hb => by cases hf.symm.trans hb⟩
      · simp only [Stream.popChunk, ReadStatus.ofPair, hf] at h ⊢
        cases h
        exact ⟨rfl, fun _ => trivial⟩
  | shutdownComplete =>
    rw [hs] at h
    simp only [Stream.readShutdownComplete] at h
    split at h
    · cases h
    · split at h
      · cases h
      · split at h <;> cases h
  | _ =>
    rw [hs] at h
    cases h

/-- **An empty chunk with FIN** that `poll_data` drops had no bytes left, and is the last one. -/
theorem dropped_chunk (hrun : (streamSystem w DeliveryContract).Run tr s)
    (hlt : ∀ r ∈ receives tr, r.bytes.length < 2 ^ 32) {cx : ω} {b : StreamRecvBuffer}
    (hr : (s.call w (.pollReadChunk cx)).result = .readChunk (.ready (.ok (some b))))
    (hempty : b.isEmpty = true) (hfin : b.fin = true) : b.unread = [] ∧ AllDelivered tr := by
  have hd := delivery_run hrun
  obtain ⟨b₀, rest, hq, rfl, hshut⟩ := pollReadChunk_some (StreamRes.readChunk.inj hr)
  have hmem : b₀ ∈ s.inner.recvBuffers := by rw [hq]; exact List.mem_cons_self
  obtain ⟨r, hrmem, hrb⟩ := (accounting_run hrun).exists_receive (List.mem_append_right _ hmem)
  have hlen : b₀.len = b₀.content.length := by
    have hl := congrArg StreamRecvBuffer.len hrb
    have hc := congrArg StreamRecvBuffer.content hrb
    rw [Receive.buffer, StreamRecvBuffer.len_new] at hl
    rw [← StreamRecvBuffer.rewound_len, ← hl, ← StreamRecvBuffer.content_rewound, ← hc]
    exact Nat.mod_eq_of_lt (hlt r hrmem)
  have hsmall : b₀.len < 2 ^ 32 := by
    have hl := congrArg StreamRecvBuffer.len hrb
    rw [Receive.buffer, StreamRecvBuffer.len_new] at hl
    exact hl ▸ Nat.mod_lt _ (Nat.two_pow_pos 32)
  have hunread : b₀.unread = [] := unread_of_isEmpty (hd.wellFormed _ hmem) hlen hsmall hempty
  have hd' := hd.step (l := .call (.pollReadChunk cx)) hrun (deliveryContract_call id)
  refine ⟨hunread, (hd'.shutdown (hshut hfin)).before rfl id ?_⟩
  show handedBytes (s.call w (.pollReadChunk cx)).result = []
  rw [hr]
  exact hunread

omit [LawfulRangeSet R] in
theorem handedBytes_of_not_read {l : StreamLabel ω} (hl : ∀ op, l = .call op → ¬ op.IsRead) :
    handedBytes (s.step w l).result = [] := by
  cases l with
  | event ev =>
    cases ev with
    | sendComplete =>
      simp only [StreamSys.step, StreamSys.dispatchEvent]
      split <;> rfl
    | _ => rfl
  | call op =>
    cases op with
    | pollRead | pollReadBuf | pollReadChunk => exact absurd trivial (hl _ rfl)
    | dropRecvBuffer =>
      simp only [StreamSys.step, StreamSys.call]
      split <;> rfl
    | advance | getBytesUptoSize =>
      simp only [StreamSys.step, StreamSys.call]
      split
      · split <;> rfl
      · rfl
    | _ => rfl

theorem Receiving.handed (h : Receiving w data y tr s)
    (hrun : (streamSystem w DeliveryContract).Run tr s)
    (hlt : ∀ r ∈ receives tr, r.bytes.length < 2 ^ 32) : y.Held ∧ data = handedOut tr := by
  induction h with
  | new => exact ⟨nofun, rfl⟩
  | other l _ hl ih =>
    have hlt' := fun r hr => hlt r (by rw [receives_cons]; exact List.mem_append_right _ hr)
    obtain ⟨hheld, hdata⟩ := ih (run_tail hrun).1 hlt'
    refine ⟨hheld, hdata.trans ?_⟩
    rw [handedOut_cons]
    show _ = _ ++ handedBytes (StreamSys.step w _ l).result
    rw [handedBytes_of_not_read hl, List.append_nil]
  | @pollData data y tr s cx answer _ hr ih =>
    have hpre := (run_tail hrun).1
    obtain ⟨hheld, hdata⟩ := ih hpre hlt
    refine ⟨(RecvStream.pollData_spec hheld answer).1, ?_⟩
    rw [handedOut_cons, hdata]
    refine congrArg _ ?_
    show _ = handedBytes (s.call w (.pollReadChunk cx)).result
    rw [hr]
    obtain ⟨stream, hlend⟩ := RecvStream.lend_eq hheld
    simp only [RecvStream.pollData, hlend]
    cases answer with
    | pending => rfl
    | ready chunk =>
      cases chunk with
      | error e =>
        simp only
        cases convertReadError e <;> rfl
      | ok chunk =>
        cases chunk with
        | none => rfl
        | some b =>
          simp only [Option.filter]
          split
          · rfl
          · next hb =>
            simp only [Bool.or_eq_true, Bool.not_eq_true', not_or, Bool.not_eq_false] at hb
            exact (dropped_chunk hpre hlt hr hb.1 hb.2).1.symm

end

/-! ## Between them -/

section

variable [RangeSet R] [LawfulRangeSet R] [WillWake ω] [StatusApi] [Buf β] [LawfulBuf β] {w : Nat}
  {tr : List (Step (StreamSys R ω × StreamSys R ω) (StreamLabel ω ⊕ StreamLabel ω)
    (Out ω StreamCall StreamRes ⊕ Out ω StreamCall StreamRes))} {s t : StreamSys R ω}
  {given data : Bytes} {x : SendStream Unit β} {y : RecvStream Unit}

/-- **A body arrives as it was given**: what `poll_data` has handed out is the front of what the
sender was given, and it answers with `None` only when the sender has ended the stream and all
that it has written is handed out. -/
theorem body_in_order (h : (pipe R ω w).Run tr (s, t)) (hs : Sending w given x (lefts tr) s)
    (hr : Receiving w data y (rights tr) t)
    (hchunk : ∀ b : β, Buf.remaining b ≠ 0 → Buf.chunk b ≠ [])
    (hlt : ∀ r ∈ receives (rights tr), r.bytes.length < 2 ^ 32) :
    (∃ underway, given = data ++ underway ++ x.unsent) ∧
      ∀ cx answer, (t.call w (.pollReadChunk cx)).result = .readChunk answer →
        (y.pollData answer).result = .returned (.ready (.ok none)) →
        Finished (lefts tr) ∧ given = data ++ x.unsent := by
  have hgiven := (hs.unwritten hchunk h.left).given
  obtain ⟨hheld, rfl⟩ := hr.handed h.right hlt
  obtain ⟨hpre, hend⟩ := pipe_flow h
  refine ⟨?_, fun cx answer hcall hnone => ?_⟩
  · obtain ⟨underway, hu⟩ := hpre
    exact ⟨underway, by rw [hu, hgiven]⟩
  suffices hall : AllDelivered (rights tr) by
    obtain ⟨hfin, heq⟩ := hend hall
    exact ⟨hfin, by rw [heq, hgiven]⟩
  obtain ⟨stream, hlend⟩ := RecvStream.lend_eq hheld
  simp only [RecvStream.pollData, hlend] at hnone
  cases answer with
  | pending => cases hnone
  | ready chunk =>
    cases chunk with
    | error e =>
      simp only at hnone
      cases hc : convertReadError e <;> rw [hc] at hnone <;> cases hnone
    | ok chunk =>
      cases chunk with
      | none =>
        have hread : StreamOp.IsNonEmptyRead (.pollReadChunk cx) := trivial
        exact allDelivered_of_end h.right hread (by rw [hcall]; rfl)
      | some b =>
        cases hempty : b.isEmpty <;> cases hfin : b.fin <;>
          simp [Option.filter, hempty, hfin] at hnone
        exact (dropped_chunk h.right hlt hcall hempty hfin).2

end

theorem Sending.sendBytes [RangeSet R] [WillWake ω] [StatusApi] {w : Nat} {given b : Bytes}
    {fut : BoxFuture (Unit × Bytes)} {tr : List (StreamStep R ω)} {s : StreamSys R ω}
    (h : Sending (β := Bytes) w given ⟨some (), none, fut⟩ tr s) (hb : b ≠ []) (cx : ω) (fresh : Nat)
    (native : NativeResult) (hr : (s.step w (write cx b fresh native)).result =
      .write (.returned (.ready (.ok b.length)))) :
    Sending (β := Bytes) w (given ++ b) ⟨some (), none, .answered⟩
      ((streamSystem w WriterContract).take s (write cx b fresh native) :: tr)
      (s.step w (write cx b fresh native)).state := by
  have hlen : b.length ≠ 0 := fun h => hb (List.eq_nil_of_length_eq_zero h)
  have hpoll : (⟨some (), some b, fut⟩ : SendStream Unit Bytes).pollReady [.ok b.length] =
      { state := ⟨some (), none, .answered⟩
        result := .returned (.ready (.ok ()))
        calls := [.pollWrite () b] } := by
    simp [SendStream.pollReady, SendStream.pollReadyLoop, SendStream.lend, Buf.remaining,
      Buf.chunk, Buf.advance, hlen]
  have hsent := Sending.pollReady (x := ⟨some (), some b, fut⟩) (h.sendData b rfl) (by
    rw [hpoll]
    exact .answer cx b fresh native _ hr .nil)
  rwa [hpoll] at hsent

/-- Two buffers are sent and finished, and one chunk carries them to the other end. -/
theorem body_in_order_two :
    ∃ (tr : List (Step (StreamSys Coalesced Nat × StreamSys Coalesced Nat)
        (StreamLabel Nat ⊕ StreamLabel Nat)
        (Out Nat StreamCall StreamRes ⊕ Out Nat StreamCall StreamRes)))
      (s t : StreamSys Coalesced Nat) (x : SendStream Unit Bytes) (y : RecvStream Unit),
      (pipe Coalesced Nat 64).Run tr (s, t) ∧ Sending 64 [1, 2, 3] x (lefts tr) s ∧
      Receiving 64 [1, 2, 3] y (rights tr) t ∧
      tr.map Step.label =
        [.inr (.call (.pollReadChunk 7)),
          .inr (.event (.receive 0 3 [.ofSlice [1, 2, 3]] { fin := true })),
          .inl (.call (.pollFinishWrite 7 (.ok ()))), .inl (write 7 [3] 2 (.ok ())),
          .inl (write 7 [1, 2] 1 (.ok ())), .inl (.event .peerAccepted),
          .inl (.call (.pollStart 7 false (.ok ())))] ∧
      Finished (lefts tr) ∧ [1, 2, 3] = [1, 2, 3] ++ x.unsent := by
  have h0 := System.Run.start (S := pipe Coalesced Nat 64) (s := (_, _))
    ⟨.opened .bidirectional, .fromRaw .bidirectional⟩
  have x0 : Sending (β := Bytes) 64 [] (.new ()) [] _ :=
    .new (R := Coalesced) (ω := Nat) (.opened .bidirectional)
  have y0 : Receiving 64 [] (.new ()) [] _ :=
    .new (R := Coalesced) (ω := Nat) (.fromRaw .bidirectional)
  have h1 := h0.step_inl (.call (.pollStart 7 false (.ok ())))
    (writerContract_of (sendOrder_of id id) rfl fun _ h => by cases h) trivial
  have x1 := x0.other (.call (.pollStart 7 false (.ok ()))) rfl
  have h2 := h1.step_inl (.event .peerAccepted)
    (writerContract_peerAccepted rfl rfl id) trivial
  have x2 := x1.other (.event .peerAccepted) rfl
  have h3 := h2.step_inl (write 7 [1, 2] 1 (.ok ()))
    (writerContract_of (sendOrder_of id fun h => by cases h) rfl fun _ hp =>
      Option.some.inj hp ▸ by decide) trivial
  have x3 := x2.sendBytes (b := [1, 2]) (List.cons_ne_nil _ _) 7 1 (.ok ()) rfl
  have h4 := h3.step_inl (write 7 [3] 2 (.ok ()))
    (writerContract_of (sendOrder_of id fun h => by cases h) rfl fun _ hp =>
      Option.some.inj hp ▸ by decide) trivial
  have x4 := x3.sendBytes (b := [3]) (List.cons_ne_nil _ _) 7 2 (.ok ()) rfl
  have h5 := h4.step_inl (.call (.pollFinishWrite 7 (.ok ())))
    (writerContract_of (sendOrder_of id fun h => by cases h) rfl fun _ h => by cases h) trivial
  have x5 := x4.other (.call (.pollFinishWrite 7 (.ok ()))) rfl
  have h6 := h5.step_inr (.event (.receive 0 3 [.ofSlice [1, 2, 3]] { fin := true }))
    (deliveryContract_first (by simp [QuicBuffer.ofSlice_bytes]))
    ⟨fun r hr => Option.some.inj hr ▸ ⟨List.prefix_refl _, fun _ =>
      ⟨⟨_, .head _, _, .head _, trivial⟩, rfl⟩⟩, False.elim⟩
  have y1 := y0.other (.event (.receive 0 3 [.ofSlice [1, 2, 3]] { fin := true }))
    fun _ h => by cases h
  have h7 := h6.step_inr (.call (.pollReadChunk 7)) (deliveryContract_call id)
    ⟨fun _ h => (by cases h), False.elim⟩
  have y2 := y1.pollData 7 _ rfl
  have hlast := (body_in_order h7 x5 y2 (fun b hb => List.ne_nil_of_length_pos
    (Nat.pos_of_ne_zero hb)) (by
      intro r hr
      rcases List.mem_singleton.mp hr with rfl
      decide)).2 7 _ rfl rfl
  exact ⟨_, _, _, _, _, h7, x5, y2, rfl, hlast⟩

end H3

end MsquicAsync
