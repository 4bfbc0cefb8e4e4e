import MsquicAsync.Stream.EndOfStream
import MsquicAsync.Stream.ReadWaiters
import MsquicAsync.Stream.SendCalls

/-!
# Reading to the end

Once the FIN is queued no read waits: each takes bytes or a chunk from the queue,
or it is the last one (`Advances`). What the queue weighs is its bytes and its
buffers, and every read that asks for something makes it lighter, so after the
FIN has arrived as many reads as bytes and chunks are left reach the end
(`reads_reach_end`).
-/

namespace MsquicAsync

open Runs Ranges Loops ReadLoop

variable {R ω : Type}

/-! ## What a read takes -/

/-- The bytes and the buffers of a queue. -/
def weigh (q : List StreamRecvBuffer) : Nat := (unreadBytes q).length + q.length

/-- A read function that finds a FIN behind the queue ends it, or makes it lighter. -/
def Advances {α : Type} (q : List StreamRecvBuffer) (r : ReadFn α) : Prop :=
  (∃ v, r.status = .finished v) ∨
    ((∃ v, r.status = .readable v ∨ r.status = .blocked (some v)) ∧
      lastFin r.recvBuffers = true ∧ weigh r.recvBuffers < weigh q)

theorem advances_popChunk {q : List StreamRecvBuffer} (h : lastFin q = true) :
    Advances q (Stream.popChunk q) := by
  cases q with
  | nil => cases h
  | cons b rest =>
    cases hf : b.fin with
    | true => exact .inl ⟨some b.setStream, by simp [Stream.popChunk, ReadStatus.ofPair, hf]⟩
    | false =>
      refine .inr ⟨⟨b.setStream, .inr (by simp [Stream.popChunk, ReadStatus.ofPair, hf])⟩, ?_, ?_⟩
      · cases rest with
        | nil => exact absurd h (by simp [lastFin, hf])
        | cons c rest => exact h
      · show weigh rest < weigh (b :: rest)
        simp only [weigh, unreadBytes_cons, List.length_append, List.length_cons]
        omega

section

variable {n : Nat} {q : List StreamRecvBuffer} {got : ReadLoop n → Bool}

/-- The destination is full only after a slice, which leaves its buffer in the queue. -/
theorem readLoop_readable (hn : 0 < n) {v : Bytes}
    (h : ((readLoop n got).run (.start n q)).status = .readable v) :
    v ≠ [] ∧ ((readLoop n got).run (.start n q)).recvBuffers ≠ [] := by
  refine (readLoop n got).run_rule (I := fun s => s.read.length = n → s.recvBuffers ≠ [])
    (Q := fun r => r.status = .readable v → v ≠ [] ∧ r.recvBuffers ≠ []) ?_ ?_ ?_ h
  · intro s s' _ hb hlen
    obtain ⟨b, rest, hq, hcont⟩ := continues_of_body hb
    cases hcont with
    | slice hg hs =>
      subst hs
      exact List.cons_ne_nil _ _
    | pop hg hs =>
      subst hs
      replace hb : ReadLoop.body got s = _ := hb
      unfold ReadLoop.body at hb
      rw [if_pos hlen] at hb
      cases hb
  · intro s r hfull hb hv
    replace hb : ReadLoop.body got s = .inr r := hb
    rcases body_done hb with ⟨hlen, hall⟩ | ⟨-, -, hall⟩
    · obtain rfl := Sum.inr.inj ((hall got).symm.trans hb)
      cases hv
      exact ⟨List.ne_nil_of_length_pos (hlen.symm ▸ hn), hfull hlen⟩
    · obtain rfl := Sum.inr.inj ((hall got).symm.trans hb)
      cases hf : s.fin <;> cases hg : got s <;> simp [ReadStatus.ofPair, hf, hg] at hv
  · intro h0
    exact absurd h0 (Nat.ne_of_lt hn)

theorem readLoop_status (hrun : ∃ t : ReadLoop n, Progress q t ∧
      ReadLoop.body got t = .inr ((readLoop n got).run (.start n q))) (h : lastFin q = true) :
    (∃ v, ((readLoop n got).run (.start n q)).status = .finished v) ∨
      ∃ v, ((readLoop n got).run (.start n q)).status = .readable v := by
  obtain ⟨t, ht, hb⟩ := hrun
  rcases body_done hb with ⟨-, hall⟩ | ⟨-, hq, hall⟩
  · rw [← Sum.inr.inj ((hall got).symm.trans hb)]
    exact .inr ⟨_, rfl⟩
  · have hrew := ht.rewound
    rw [hq, List.append_nil] at hrew
    have hfin : t.fin = true := by rw [ht.last, ← lastFin_of_rewound hrew, h]
    rw [← Sum.inr.inj ((hall got).symm.trans hb), hfin]
    exact .inl ⟨_, rfl⟩

theorem advances_readLoop (hn : 0 < n)
    (hgot : ∀ s, got s = false → s.copied = false ∨ s.read = [])
    (hrun : ∃ t : ReadLoop n, Progress q t ∧
      ReadLoop.body got t = .inr ((readLoop n got).run (.start n q))) (h : lastFin q = true) :
    Advances q ((readLoop n got).run (.start n q)) := by
  rcases readLoop_status hrun h with hf | ⟨v, hv⟩
  · exact .inl hf
  obtain ⟨hne, hq⟩ := readLoop_readable hn hv
  have hreads := reads_readLoop got hgot q
  have hlen := congrArg List.length hreads.rewound
  have hunread := congrArg List.length hreads.unread
  rw [hv] at hunread
  have hpos : 0 < v.length := List.length_pos_of_ne_nil hne
  simp only [ReadStatus.value, Option.getD_some, List.length_append, List.length_map]
    at hlen hunread
  refine .inr ⟨⟨v, .inl hv⟩, ?_, ?_⟩
  · have hlast := lastFin_of_rewound hreads.rewound
    rw [h] at hlast
    rw [hlast, lastFin, lastFin, List.getLast?_append_of_ne_nil _ hq]
  · unfold weigh
    omega

end

/-! ## One read -/

/-- The receive side is open, and the FIN is queued. -/
structure StreamInner.FinQueued (x : StreamInner R ω) : Prop where
  recvState : x.recvState = .startComplete
  fin : lastFin x.recvBuffers = true

/-- The receive side has ended. -/
def StreamInner.RecvEnded (x : StreamInner R ω) : Prop :=
  x.recvState = .shutdown ∨ x.recvState = .shutdownComplete

section

variable [WillWake ω]

theorem Stream.pollReadGeneric_advances {α : Type} {x : StreamInner R ω} (cx : ω)
    (readFn : List StreamRecvBuffer → ReadFn α) (h : x.FinQueued)
    (hfn : Advances x.recvBuffers (readFn x.recvBuffers)) :
    (∃ v, (pollReadGeneric x cx readFn).result.poll = .ready (.ok v)) ∧
      ((pollReadGeneric x cx readFn).state.RecvEnded ∨
        ((pollReadGeneric x cx readFn).state.FinQueued ∧
          weigh (pollReadGeneric x cx readFn).state.recvBuffers < weigh x.recvBuffers)) := by
  unfold pollReadGeneric
  simp only [h.recvState]
  rcases hfn with ⟨v, hv⟩ | ⟨⟨v, hv | hv⟩, hfin, hlt⟩
  · simp only [hv]
    exact ⟨⟨_, rfl⟩, .inl (.inl rfl)⟩
  · simp only [hv]
    exact ⟨⟨_, rfl⟩, .inr ⟨⟨rfl, hfin⟩, hlt⟩⟩
  · simp only [hv]
    exact ⟨⟨_, rfl⟩, .inr ⟨⟨rfl, hfin⟩, hlt⟩⟩

theorem Stream.pollReadGeneric_recvEnded {α : Type} {x : StreamInner R ω} (cx : ω)
    (readFn : List StreamRecvBuffer → ReadFn α) (h : x.RecvEnded) :
    (∃ r, (pollReadGeneric x cx readFn).result.poll = .ready r) ∧
      (pollReadGeneric x cx readFn).state = x := by
  unfold pollReadGeneric
  rcases h with h | h
  · simp only [h]
    exact ⟨⟨_, rfl⟩, trivial⟩
  · simp only [h]
    exact ⟨⟨_, rfl⟩, trivial⟩

theorem StreamRes.ready_read {p : ReadPoll (Option Bytes)} {r : Except ReadError (Option Bytes)}
    (h : p.poll = .ready r) : (StreamRes.read (p.getD []).poll).Ready := by
  rw [ReadPoll.getD, h]
  trivial

variable [RangeSet R] [StatusApi] {w : Nat} {s : StreamSys R ω} {op : StreamOp ω}

/-- **A read that asks for something makes progress** once the FIN is queued. -/
theorem StreamSys.read_advances (hop : op.IsNonEmptyRead) (h : s.inner.FinQueued) :
    (s.call w op).result.Ready ∧
      ((s.call w op).state.inner.RecvEnded ∨
        ((s.call w op).state.inner.FinQueued ∧
          weigh (s.call w op).state.inner.recvBuffers < weigh s.inner.recvBuffers)) := by
  cases op with
  | pollRead cx len =>
    obtain ⟨t, ht, hgot, -⟩ := readLoops_last len s.inner.recvBuffers
    obtain ⟨⟨v, hv⟩, hnext⟩ := Stream.pollReadGeneric_advances cx (fun q =>
        (readLoop len ReadLoop.gotBytes).run (.start len q)) h
      (advances_readLoop hop ReadLoop.gotBytes_spec ⟨t, ht, hgot⟩ h.fin)
    exact ⟨StreamRes.ready_read hv, hnext⟩
  | pollReadBuf cx remaining =>
    obtain ⟨t, ht, -, hcop⟩ := readLoops_last remaining s.inner.recvBuffers
    obtain ⟨⟨v, hv⟩, hnext⟩ := Stream.pollReadGeneric_advances cx (fun q =>
        (readLoop remaining ReadLoop.copied).run (.start remaining q)) h
      (advances_readLoop hop (fun _ h => .inl h) ⟨t, ht, hcop⟩ h.fin)
    simp only [call, Stream.pollReadBuf, if_neg (Nat.ne_of_gt hop)]
    exact ⟨StreamRes.ready_read hv, hnext⟩
  | pollReadChunk cx =>
    obtain ⟨⟨v, hv⟩, hnext⟩ := Stream.pollReadGeneric_advances cx Stream.popChunk h
      (advances_popChunk h.fin)
    refine ⟨?_, hnext⟩
    show StreamRes.Ready (.readChunk (Stream.pollReadChunk s.inner cx).result.poll)
    rw [Stream.pollReadChunk, hv]
    trivial
  | _ => exact hop.elim

theorem StreamSys.read_recvEnded (hop : op.IsRead) (h : s.inner.RecvEnded) :
    (s.call w op).result.Ready ∧ (s.call w op).state.inner = s.inner := by
  cases op with
  | pollRead cx len =>
    obtain ⟨⟨r, hr⟩, hx⟩ := Stream.pollReadGeneric_recvEnded cx (fun q =>
      (readLoop len ReadLoop.gotBytes).run (.start len q)) h
    exact ⟨StreamRes.ready_read hr, hx⟩
  | pollReadBuf cx remaining =>
    simp only [call, Stream.pollReadBuf]
    split
    · exact ⟨trivial, rfl⟩
    · obtain ⟨⟨r, hr⟩, hx⟩ := Stream.pollReadGeneric_recvEnded cx (fun q =>
        (readLoop remaining ReadLoop.copied).run (.start remaining q)) h
      exact ⟨StreamRes.ready_read hr, hx⟩
  | pollReadChunk cx =>
    obtain ⟨⟨r, hr⟩, hx⟩ := Stream.pollReadGeneric_recvEnded cx Stream.popChunk h
    refine ⟨?_, hx⟩
    show StreamRes.Ready (.readChunk (Stream.pollReadChunk s.inner cx).result.poll)
    rw [Stream.pollReadChunk, hr]
    trivial
  | _ => exact hop.elim

theorem StreamSys.read_empty (hop : op.IsRead) (hne : ¬ op.IsNonEmptyRead)
    (h : s.inner.FinQueued) : (s.call w op).state.inner = s.inner := by
  cases op with
  | pollRead cx len =>
    obtain rfl : len = 0 := Nat.eq_zero_of_not_pos hne
    have hbody : ReadLoop.body gotBytes (.start 0 s.inner.recvBuffers) =
        .inr ⟨.readable [], s.inner.recvBuffers, []⟩ := if_pos rfl
    have hrun : (readLoop 0 gotBytes).run (.start 0 s.inner.recvBuffers) =
        ⟨.readable [], s.inner.recvBuffers, []⟩ := by
      rw [Loop.run_eq, show (readLoop 0 gotBytes).body = ReadLoop.body gotBytes from rfl, hbody]
    show (Stream.pollReadGeneric s.inner cx _).state = s.inner
    simp only [Stream.pollReadGeneric, h.recvState, hrun]
    rw [← h.recvState]
  | pollReadBuf cx remaining =>
    obtain rfl : remaining = 0 := Nat.eq_zero_of_not_pos hne
    rfl
  | pollReadChunk cx => exact absurd trivial hne
  | _ => exact hop.elim

end

/-! ## Every step -/

/-- A step that starts the stream, or tells that it has started. -/
def StreamLabel.Restarts [StatusApi] : StreamLabel ω → Prop
  | .call (.pollStart _ _ _) => True
  | l => l.Accepts

/-- MsQuic receives on a stream that has a receive side and has started, and nothing starts it
again. -/
structure ReadingContract [StatusApi] (tr : List (StreamStep R ω)) (s : StreamSys R ω)
    (l : StreamLabel ω) : Prop extends DeliveryContract tr s l where
  started : ∀ r, l.receive? = some r → s.inner.recvState ≠ .closed ∧ s.inner.recvState ≠ .start
  once : l.Restarts → receives tr = []

section

variable [RangeSet R] [WillWake ω] [StatusApi] {w : Nat} {s : StreamSys R ω}
  {tr : List (StreamStep R ω)}

theorem StreamSys.step_recvSide {l : StreamLabel ω} (hread : ∀ op, l = .call op → ¬ op.IsRead)
    (habort : ¬ l.AbortsReading) (hstart : ¬ l.Restarts) (hrec : l.receive? = none) :
    (s.step w l).state.inner.recvState = .shutdownComplete ∨
      ((s.step w l).state.inner.recvState = s.inner.recvState ∧
        (s.step w l).state.inner.recvBuffers = s.inner.recvBuffers) := by
  cases l with
  | call op =>
    rcases op.group with hop | hop | hop | ⟨cx, failedOnBlock, native, rfl⟩ |
      ⟨cx, errorCode, native, rfl⟩ | ⟨errorCode, native, rfl⟩
    · exact absurd hop (hread op rfl)
    · obtain ⟨_, _, _, _, hy⟩ := (StreamSys.call_write (w := w) (s := s) hop).1.frame
      rw [step, hy]
      exact .inr ⟨rfl, rfl⟩
    · obtain ⟨_, _, hy⟩ := StreamSys.call_held (w := w) (s := s) hop
      rw [step, hy]
      exact .inr ⟨rfl, rfl⟩
    · exact absurd trivial hstart
    · exact absurd trivial habort
    · exact absurd trivial habort
  | event ev =>
    cases ev with
    | receive => cases hrec
    | peerAccepted => exact absurd trivial hstart
    | startComplete status id peerAccepted =>
      have h : ¬ (StatusApi.isOk status = true ∧ peerAccepted = true) := hstart
      refine .inr ?_
      simp only [step, dispatchEvent, after_inner, Stream.handleEventStartComplete, h, if_false]
      split <;> exact ⟨rfl, rfl⟩
    | peerSendShutdown | peerSendAborted => exact .inl rfl
    | shutdownComplete cs ac ba cr ec st =>
      simp only [step, dispatchEvent, after_inner]
      by_cases hs : s.inner.state = .shutdownComplete
      · rw [Stream.handleEventShutdownComplete_again hs]
        exact .inr ⟨rfl, rfl⟩
      · rw [(Stream.handleEventShutdownComplete_first hs cs ac ba cr ec st).2]
        exact .inl rfl
    | sendComplete canceled clientContext =>
      simp only [step, dispatchEvent]
      split <;> exact .inr ⟨rfl, rfl⟩
    | _ => exact .inr ⟨rfl, rfl⟩

end

/-! ## Every run -/

instance : DecidablePred (StreamOp.IsNonEmptyRead : StreamOp ω → Prop)
  | .pollRead _ len => inferInstanceAs (Decidable (0 < len))
  | .pollReadBuf _ remaining => inferInstanceAs (Decidable (0 < remaining))
  | .pollReadChunk _ => isTrue trivial
  | .pollStart .. | .pollWrite .. | .pollWriteChunk .. | .pollWriteChunks .. | .pollFinishWrite ..
  | .pollAbortWrite .. | .abortWrite .. | .pollAbortRead .. | .abortRead .. | .dropRecvBuffer ..
  | .advance .. | .getBytesUptoSize .. => isFalse id

/-- The step is a read that asks for something. -/
def StreamLabel.Asks : StreamLabel ω → Prop
  | .call op => op.IsNonEmptyRead
  | .event _ => False

instance : DecidablePred (StreamLabel.Asks : StreamLabel ω → Prop)
  | .call op => inferInstanceAs (Decidable op.IsNonEmptyRead)
  | .event _ => isFalse id

/-- The number of reads that asked for something. -/
def readCount (tr : List (StreamStep R ω)) : Nat := tr.countP fun e => e.label.Asks

/-- A Receive event has carried the FIN. -/
def FinArrived (tr : List (StreamStep R ω)) : Prop := ∃ r ∈ receives tr, r.fin = true

theorem finArrived_cons {e : StreamStep R ω} (tr : List (StreamStep R ω)) (r : Receive)
    (h : e.label.receive? = some r) (hf : r.fin = true) : FinArrived (e :: tr) :=
  ⟨r, by rw [receives_cons, h]; exact List.mem_cons_self, hf⟩

section

variable [RangeSet R] [WillWake ω] [StatusApi] {w : Nat} {s : StreamSys R ω}
  {tr later : List (StreamStep R ω)}

/-- **One step after the FIN has arrived**: the receive side ends, or the queue keeps the FIN and
is lighter by the read. -/
theorem step_progress {l : StreamLabel ω} (hfin : FinArrived tr) (hok : ReadingContract tr s l)
    (h : s.inner.RecvEnded ∨ s.inner.FinQueued) :
    (l.Asks → (s.step w l).result.Ready) ∧
      ((s.step w l).state.inner.RecvEnded ∨
        (s.inner.FinQueued ∧ (s.step w l).state.inner.FinQueued ∧
          weigh (s.step w l).state.inner.recvBuffers + (if l.Asks then 1 else 0) ≤
            weigh s.inner.recvBuffers)) := by
  obtain ⟨r, hr, hrf⟩ := hfin
  have hrec : l.receive? = none := by
    by_contra hne
    obtain ⟨r', hr'⟩ := Option.ne_none_iff_exists'.mp hne
    exact absurd (hok.last r' hr' r hr) (by rw [hrf]; exact Bool.noConfusion)
  have hstart : ¬ l.Restarts := fun hl => by
    rw [hok.once hl] at hr
    cases hr
  by_cases hread : ∃ op, l = .call op ∧ op.IsRead
  · obtain ⟨op, rfl, hop⟩ := hread
    rcases h with hended | hq
    · obtain ⟨hready, hx⟩ := StreamSys.read_recvEnded (w := w) hop hended
      refine ⟨fun _ => hready, .inl ?_⟩
      rw [StreamSys.step, hx]
      exact hended
    · by_cases hne : op.IsNonEmptyRead
      · obtain ⟨hready, hnext⟩ := StreamSys.read_advances (w := w) hne hq
        refine ⟨fun _ => hready, hnext.imp id fun hn => ?_⟩
        obtain ⟨hq', hlt⟩ := hn
        refine ⟨hq, hq', ?_⟩
        rw [if_pos (show (StreamLabel.call op).Asks from hne)]
        exact hlt
      · have hx := StreamSys.read_empty (w := w) hop hne hq
        refine ⟨fun ha => absurd ha hne, .inr ⟨hq, ?_⟩⟩
        rw [StreamSys.step, hx, if_neg (show ¬ (StreamLabel.call op).Asks from hne)]
        exact ⟨hq, Nat.le_refl _⟩
  · have hnot : ∀ op, l = .call op → ¬ op.IsRead := fun op hl hop => hread ⟨op, hl, hop⟩
    have hasks : ¬ l.Asks := by
      cases l with
      | call op => exact fun ha => hnot op rfl ha.isRead
      | event => exact id
    refine ⟨fun ha => absurd ha hasks, ?_⟩
    rw [if_neg hasks]
    rcases StreamSys.step_recvSide (w := w) (s := s) hnot hok.noAbort hstart hrec with hs | ⟨hs, hq'⟩
    · exact .inl (.inr hs)
    · rcases h with h | hq
      · left
        unfold StreamInner.RecvEnded
        rw [hs]
        exact h
      · refine .inr ⟨hq, ⟨hs.trans hq.recvState, ?_⟩, ?_⟩
        · rw [hq', hq.fin]
        · rw [hq']
          exact Nat.le_refl _

/-- Once the FIN has arrived it is queued, or the receive side has ended. -/
theorem finQueued_run (h : (streamSystem w ReadingContract).Run tr s) (hfin : FinArrived tr) :
    s.inner.RecvEnded ∨ s.inner.FinQueued := by
  refine h.invariant (I := fun tr s => FinArrived tr → s.inner.RecvEnded ∨ s.inner.FinQueued)
    (fun _ _ ⟨_, hr, _⟩ => absurd hr List.not_mem_nil) (fun tr s l _ hok ih hfin => ?_) hfin
  by_cases hbefore : FinArrived tr
  · exact (step_progress hbefore hok (ih hbefore)).2.imp id fun h => h.2.1
  · -- the step is the Receive event with the FIN
    obtain ⟨r, hr, hrf⟩ := hfin
    rw [receives_cons] at hr
    rcases List.mem_append.mp hr with hr | hr
    · have hl : l.receive? = some r := by simpa using hr
      obtain ⟨hclosed, hstart⟩ := hok.started r hl
      cases l with
      | call => cases hl
      | event ev =>
        cases ev with
        | receive absoluteOffset total buffers flags =>
          obtain rfl := Option.some.inj hl
          have hstate : ((streamSystem w ReadingContract).next s
              (.event (.receive absoluteOffset total buffers flags))).1.inner.recvState =
                s.inner.recvState := rfl
          cases hs : s.inner.recvState with
          | closed => exact absurd hs hclosed
          | start => exact absurd hs hstart
          | shutdown => exact .inl (.inl (hstate.trans hs))
          | shutdownComplete => exact .inl (.inr (hstate.trans hs))
          | startComplete =>
            refine .inr ⟨hstate.trans hs, ?_⟩
            show lastFin (s.inner.recvBuffers ++ [_]) = true
            rw [lastFin, List.getLast?_append_of_ne_nil _ (List.cons_ne_nil _ _)]
            exact hrf
        | _ => cases hl
    · exact absurd ⟨r, hr, hrf⟩ hbefore

theorem delivery_of_reading [LawfulRangeSet R] (h : (streamSystem w ReadingContract).Run tr s) :
    Delivery tr s :=
  delivery_run (h.mono (fun _ h0 => h0) (fun _ _ _ hok => hok.toDeliveryContract) rfl)

/-- The queue weighs no more than the bytes that are left and the chunks that came. -/
theorem weigh_le [LawfulRangeSet R] (h : (streamSystem w ReadingContract).Run tr s)
    (hq : s.inner.FinQueued) :
    weigh s.inner.recvBuffers + (handedOut tr).length ≤
      (receivedBytes tr).length + (receives tr).length := by
  have hlen := (accounting_run h).perm.length_eq
  simp only [List.length_map, List.length_append] at hlen
  rcases (delivery_of_reading h).flow with hflow | ⟨-, hnil, -⟩
  · have hbytes := congrArg List.length hflow
    rw [List.length_append] at hbytes
    unfold weigh
    omega
  · have hfin := hq.fin
    rw [hnil] at hfin
    cases hfin

/-- **Reading reaches the end.** Once the FIN has arrived no read waits, and as many reads as
bytes and chunks are left have all bytes handed out, unless the stream has failed; from then on
every read reports the end. -/
theorem reads_reach_end [Inhabited ω] [LawfulRangeSet R]
    (h : (streamSystem w ReadingContract).Run (later ++ tr) s) (hfin : FinArrived tr) :
    (∀ e ∈ later, e.label.Asks → e.out.result.Ready) ∧
      ((receivedBytes tr).length + (receives tr).length ≤
          (handedOut tr).length + readCount later →
        s.inner.ErrorRecorded ∨ (AllDelivered (later ++ tr) ∧ s.ReadsEnd w)) := by
  have hprogress : (∀ e ∈ later, e.label.Asks → e.out.result.Ready) ∧
      (s.inner.RecvEnded ∨ (s.inner.FinQueued ∧ weigh s.inner.recvBuffers + readCount later +
        (handedOut tr).length ≤ (receivedBytes tr).length + (receives tr).length)) := by
    induction later generalizing s with
    | nil =>
      refine ⟨List.forall_mem_nil _, (finQueued_run h hfin).imp id fun hq => ⟨hq, weigh_le h hq⟩⟩
    | cons e later ih =>
      rw [List.cons_append] at h
      cases h with
      | @step _ s l hrun hok =>
      obtain ⟨hready, hnext⟩ := ih hrun
      have hfin' : FinArrived (later ++ tr) := by
        obtain ⟨r, hr, hrf⟩ := hfin
        exact ⟨r, by rw [receives, List.filterMap_append]; exact List.mem_append_right _ hr, hrf⟩
      obtain ⟨hasks, hstep⟩ := step_progress (w := w) hfin' hok (hnext.imp id And.left)
      refine ⟨List.forall_mem_cons.mpr ⟨hasks, hready⟩, hstep.imp id fun hn => ?_⟩
      obtain ⟨hq, hq', hle⟩ := hn
      refine ⟨hq', ?_⟩
      rcases hnext with hended | ⟨-, hw⟩
      · rcases hended with hs | hs <;> rw [hq.recvState] at hs <;> cases hs
      · have hcount : readCount ((streamSystem w ReadingContract).take s l :: later) =
            readCount later + if l.Asks then 1 else 0 := by
          by_cases hl : l.Asks <;> simp [readCount, hl]
        have hle' : weigh ((streamSystem w ReadingContract).next s l).1.inner.recvBuffers +
            (if l.Asks then 1 else 0) ≤ weigh s.inner.recvBuffers := hle
        omega
  refine ⟨hprogress.1, fun henough => ?_⟩
  have hended : s.inner.RecvEnded := by
    refine hprogress.2.resolve_right fun hn => ?_
    obtain ⟨hq, hle⟩ := hn
    have hpos : 0 < s.inner.recvBuffers.length := List.length_pos_of_ne_nil fun hnil => by
      have hlast := hq.fin
      rw [hnil] at hlast
      cases hlast
    unfold weigh at hle
    omega
  have hd := delivery_of_reading h
  by_cases herr : s.inner.ErrorRecorded
  · exact .inl herr
  · refine .inr ?_
    rcases hended with hs | hs
    · exact ⟨hd.shutdown hs, StreamSys.readsEnd_iff.mpr (.inl hs)⟩
    · exact ⟨(hd.shutdownComplete hs).resolve_left herr,
        StreamSys.readsEnd_iff.mpr (.inr ⟨hs, herr⟩)⟩

end

/-- A byte arrives with the FIN, and two reads reach the end. -/
theorem reads_reach_end_two :
    ∃ (tr later : List (StreamStep Coalesced Nat)) (s : StreamSys Coalesced Nat),
      (streamSystem 64 ReadingContract).Run (later ++ tr) s ∧ FinArrived tr ∧
      tr.map Step.label = [.event (.receive 0 1 [.ofSlice [7]] { fin := true })] ∧
      later.map Step.label = [.call (.pollRead 7 4), .call (.pollReadChunk 7)] ∧
      (s.inner.ErrorRecorded ∨ (AllDelivered (later ++ tr) ∧ s.ReadsEnd 64)) := by
  have h0 := System.Run.start (S := streamSystem (R := Coalesced) (ω := Nat) 64 ReadingContract)
    (.fromRaw .bidirectional)
  have h1 := h0.step (.event (.receive 0 1 [.ofSlice [7]] { fin := true }))
    (by
      exact ⟨deliveryContract_first (by simp [QuicBuffer.ofSlice_bytes]),
        fun _ _ => ⟨(fun h => by cases h), fun h => by cases h⟩, fun h => h.elim⟩)
  have h3 := (h1.step (.call (.pollReadChunk 7)) (by
    exact ⟨deliveryContract_call id, (fun _ h => by cases h), fun h => h.elim⟩)).step
      (.call (.pollRead 7 4)) (by
    exact ⟨deliveryContract_call id, (fun _ h => by cases h), fun h => h.elim⟩)
  have hfin {e : StreamStep Coalesced Nat}
      (h : e.label.receive? = some ⟨0, [.ofSlice [7]], true⟩) : FinArrived [e] :=
    finArrived_cons [] _ h rfl
  refine ⟨[_], [_, _], _, h3, ?_, rfl, rfl, ?_⟩
  · exact hfin rfl
  · exact (reads_reach_end h3 (hfin rfl)).2 (by decide)

end MsquicAsync
