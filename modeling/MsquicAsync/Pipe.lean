import MsquicAsync.Lib.Beside
import MsquicAsync.Stream.Delivery
import MsquicAsync.Stream.LongWrites
import MsquicAsync.Stream.SendLaw

/-!
# One stream, end to end

The two ends of a stream side by side: one endpoint writes, the other reads, and
between them MsQuic carries what it took from the writer (`Carries`). In every
interleaving what the reader's calls hand out is a prefix of what the writer's
calls were told was written, and the reader is told that the stream has ended
only when the writer has ended it and everything has been handed out.
-/

namespace MsquicAsync

open Runs Ranges System

variable {R ω : Type}

/-! ## The writer's side -/

/-- The bytes MsQuic takes of a step's calls. -/
def takenBytes (calls : List StreamCall) : Bytes :=
  ((sends calls).filter fun m => !m.refused).flatMap Sent.payload

/-- The bytes that MsQuic has taken, oldest first. -/
def sentBytes (tr : List (StreamStep R ω)) : Bytes :=
  tr.reverse.flatMap fun e => takenBytes e.out.calls

/-- The input of a write that answers with a count. -/
def StreamLabel.writes (l : StreamLabel ω) (r : StreamRes) : Bytes :=
  match l.pieces?, r.written? with
  | some pieces, some _ => pieces.flatten
  | _, _ => []

/-- The bytes that the application was told were written, oldest first. -/
def writtenBytes (tr : List (StreamStep R ω)) : Bytes :=
  tr.reverse.flatMap fun e => e.label.writes e.out.result

/-- A send with FIN or a GRACEFUL shutdown, that MsQuic has taken. -/
def StreamCall.Finishes : StreamCall → Prop
  | send _ flags _ (.ok ()) => flags.fin = true
  | shutdown .GRACEFUL _ (.ok ()) => True
  | _ => False

/-- The writer has ended the stream. -/
def Finished (tr : List (StreamStep R ω)) : Prop := ∃ e ∈ tr, ∃ c ∈ e.out.calls, c.Finishes

section

variable {tr : List (StreamStep R ω)} {e : StreamStep R ω}

theorem sentBytes_cons : sentBytes (e :: tr) = sentBytes tr ++ takenBytes e.out.calls := by
  simp [sentBytes]

theorem writtenBytes_cons :
    writtenBytes (e :: tr) = writtenBytes tr ++ e.label.writes e.out.result := by
  simp [writtenBytes]

theorem Finished.cons (h : Finished tr) : Finished (e :: tr) :=
  h.imp fun _ he => ⟨List.mem_cons_of_mem _ he.1, he.2⟩

theorem StreamCall.Finishes.sendCall {c : StreamCall} (h : c.Finishes) :
    c.sendCall? = some .last := by
  cases c with
  | send _ flags _ result =>
    cases result with
    | ok =>
      have hf : flags.fin = true := h
      simp [sendCall?, hf]
    | error => exact h.elim
  | shutdown flags _ result =>
    cases result with
    | ok => cases flags <;> first | rfl | exact h.elim
    | error => cases flags <;> exact h.elim
  | _ => exact h.elim

theorem Finished.last_mem (h : Finished tr) : .last ∈ sentCalls tr := by
  obtain ⟨e, he, c, hc, hf⟩ := h
  exact List.mem_flatMap.mpr ⟨e, List.mem_reverse.mpr he,
    List.mem_filterMap.mpr ⟨c, hc, hf.sendCall⟩⟩

end

theorem takenBytes_eq_nil {calls : List StreamCall} (h : sendCalls calls = []) :
    takenBytes calls = [] := by
  suffices hs : (sends calls).filter (fun m => !m.refused) = [] by rw [takenBytes, hs]; rfl
  refine List.filter_eq_nil_iff.mpr fun m hm => ?_
  obtain ⟨c, hc, hcm⟩ := List.mem_filterMap.mp hm
  have hnone := List.filterMap_eq_nil_iff.mp h c hc
  cases c with
  | send buffers flags context result =>
    obtain rfl := Option.some.inj hcm
    cases result with
    | ok => simp [StreamCall.sendCall?] at hnone
    | error => simp [Sent.refused]
  | _ => cases hcm

/-- What the environment of a writer keeps to. -/
structure WriterContract [StatusApi] (tr : List (StreamStep R ω)) (s : StreamSys R ω)
    (l : StreamLabel ω) : Prop where
  order : SendOrder tr s l
  boxes : StreamSys.SendContract s l

section

variable [RangeSet R] [WillWake ω] [StatusApi] {w : Nat} {s : StreamSys R ω}
  {tr : List (StreamStep R ω)}

/-- **MsQuic takes what the caller is told was written**, in every step. -/
theorem StreamSys.takenBytes_step {ok : StreamContract R ω} (h : (streamSystem w ok).Run tr s)
    {l : StreamLabel ω} (hok : SendContract s l) :
    takenBytes (s.step w l).calls = l.writes (s.step w l).result := by
  have hpool : ∀ b ∈ s.inner.writePool, b.Empty := twins_self.mp (StreamTwins.run h).inner
  obtain ⟨hbox, hexact⟩ := step_boxes (w := w) hok
  obtain ⟨hpayload, hcount⟩ := hexact hpool
  -- without a send that MsQuic took no count is answered
  have hnone (hno : ∀ m, sends (s.step w l).calls = [m] → m.refused = true) :
      l.writes (s.step w l).result = [] := by
    unfold StreamLabel.writes
    split
    · next n _ hw =>
      obtain ⟨m, _, hm, hr, -⟩ := hcount _ hw
      rw [hno m hm] at hr
      cases hr
    · rfl
  rw [takenBytes]
  rcases hbox.sent_eq with hs | ⟨m, hs⟩
  · rw [hs, hnone fun m hm => by rw [hs] at hm; cases hm]
    rfl
  · rw [hs] at hpayload ⊢
    obtain ⟨input, hp, hm⟩ := hpayload m (List.mem_singleton_self m)
    cases hr : m.refused with
    | true =>
      rw [hnone fun m' hm' => List.singleton_inj.mp (hs.symm.trans hm') ▸ hr]
      simp [hr]
    | false =>
      have hw : (s.step w l).result.written? = some input.flatten.length := by
        cases l with
        | event => cases hp
        | call op =>
          obtain ⟨cx, extraFlags, writeFn, fin, fresh, native, hput, -, hcall⟩ :=
            call_puts (w := w) (s := s) hp
          have hmem : m ∈ sends (s.call w op).calls := hs ▸ List.mem_singleton_self m
          rw [hcall] at hmem
          rw [step, hcall]
          exact (Stream.handed_pollWriteGeneric hput hpool hmem hr).2
      simp [StreamLabel.writes, hp, hw, hr, hm]

theorem sentBytes_eq (h : (streamSystem w WriterContract).Run tr s) :
    sentBytes tr = writtenBytes tr := by
  refine h.invariant (I := fun tr _ => sentBytes tr = writtenBytes tr) (fun _ _ => rfl)
    fun _ _ _ hr hok hi => ?_
  rw [sentBytes_cons, writtenBytes_cons, hi]
  exact congrArg _ (StreamSys.takenBytes_step hr hok.boxes)

theorem sendInv_run (h : (streamSystem w WriterContract).Run tr s) : SendInv tr s :=
  h.invariant (fun _ => sendInv_init) fun _ _ l _ hok hi =>
    hi.step hok.order (StreamSys.step_send l) (accepted_step _ _ l)

theorem Finished.takenBytes (hf : Finished tr) (h : (streamSystem w WriterContract).Run tr s)
    (l : StreamLabel ω) : takenBytes (s.step w l).calls = [] := by
  refine takenBytes_eq_nil ?_
  by_contra hne
  obtain ⟨hplain, -⟩ := (sendInv_run h).writable (StreamSys.sendState_of_sendCalls hne)
  cases hplain _ hf.last_mem

end

/-! ## The reader's side -/

section

variable {s : StreamSys R ω} {tr : List (StreamStep R ω)}

theorem Delivery.handedOut_isStart (h : Delivery tr s) : handedOut tr <+: receivedBytes tr := by
  rcases h.flow with hf | ⟨-, -, -, hpre⟩
  · exact ⟨_, hf.symm⟩
  · exact hpre

variable [RangeSet R] [LawfulRangeSet R] [WillWake ω] [StatusApi] {w : Nat}

theorem allDelivered_of_end (h : (streamSystem w DeliveryContract).Run tr s) {op : StreamOp ω}
    (hop : op.IsNonEmptyRead) (hend : (s.call w op).result.EndOfStream) : AllDelivered tr := by
  have hd := delivery_run h
  rcases StreamSys.call_ended hop hd.wellFormed hend with hs | ⟨hs, herr⟩
  · have hd' := hd.step h (deliveryContract_call hop.isRead.not_abortsReading)
    exact (hd'.shutdown hs).before rfl id hend.handedBytes
  · exact (hd.shutdownComplete hs).resolve_left herr

end

/-! ## Between them -/

/-- What MsQuic carries from the writer's history to the reader's next event: the bytes it took,
in order, and the end only behind all of them. -/
def Carries (tr tr' : List (StreamStep R ω)) : StreamLabel ω ⊕ StreamLabel ω → Prop
  | .inl _ => True
  | .inr l =>
    (∀ r, l.receive? = some r → receivedBytes tr' ++ r.bytes <+: sentBytes tr ∧
      (r.fin = true → Finished tr ∧ receivedBytes tr' ++ r.bytes = sentBytes tr)) ∧
    (l.IsPeerSendShutdown → Finished tr ∧ receivedBytes tr' = sentBytes tr)

/-- The two ends of a stream, the writer on the left. -/
def pipe (R ω : Type) [RangeSet R] [WillWake ω] [StatusApi] (w : Nat) :=
  (streamSystem (R := R) (ω := ω) w WriterContract).beside
    (streamSystem (R := R) (ω := ω) w DeliveryContract) Carries

/-- What was received of what was sent. -/
structure PipeInv (tr tr' : List (StreamStep R ω)) : Prop where
  received : receivedBytes tr' <+: sentBytes tr
  ended : FinReceived tr' → Finished tr ∧ receivedBytes tr' = sentBytes tr

theorem PipeInv.start : PipeInv ([] : List (StreamStep R ω)) [] where
  received := List.prefix_refl _
  ended := by
    rintro (⟨_, h, _⟩ | ⟨_, h, _⟩) <;> cases h

theorem PipeInv.write [RangeSet R] [WillWake ω] [StatusApi] {w : Nat}
    {tr tr' : List (StreamStep R ω)} {s : StreamSys R ω} {l : StreamLabel ω} (h : PipeInv tr tr')
    (hrun : (streamSystem w WriterContract).Run tr s) :
    PipeInv ((streamSystem w WriterContract).take s l :: tr) tr' where
  received := by
    rw [sentBytes_cons]
    exact h.received.trans (List.prefix_append _ _)
  ended hf := by
    obtain ⟨hfin, hall⟩ := h.ended hf
    refine ⟨hfin.cons, ?_⟩
    rw [sentBytes_cons, hall]
    show _ = _ ++ takenBytes (s.step w l).calls
    rw [hfin.takenBytes hrun l, List.append_nil]

theorem FinReceived.of_cons {tr : List (StreamStep R ω)} {e : StreamStep R ω}
    (h : FinReceived (e :: tr)) :
    (∃ r, e.label.receive? = some r ∧ r.fin = true) ∨ e.label.IsPeerSendShutdown ∨
      FinReceived tr := by
  rcases h with ⟨r, hr, hf⟩ | ⟨e', he, hp⟩
  · rw [receives_cons] at hr
    rcases List.mem_append.mp hr with hr | hr
    · exact .inl ⟨r, Option.mem_toList.mp hr, hf⟩
    · exact .inr (.inr (.inl ⟨r, hr, hf⟩))
  · rcases List.mem_cons.mp he with rfl | he
    · exact .inr (.inl hp)
    · exact .inr (.inr (.inr ⟨e', he, hp⟩))

theorem PipeInv.read {tr tr' : List (StreamStep R ω)} {e : StreamStep R ω} (h : PipeInv tr tr')
    (hc : Carries tr tr' (.inr e.label)) : PipeInv tr (e :: tr') := by
  obtain ⟨hrecv, hpss⟩ := hc
  cases hl : e.label.receive? with
  | none =>
    have hsame : receivedBytes (e :: tr') = receivedBytes tr' := receivedBytes_none hl
    refine ⟨hsame ▸ h.received, fun hf => ?_⟩
    rw [hsame]
    rcases hf.of_cons with ⟨r, hr, -⟩ | hp | hf
    · rw [hl] at hr
      cases hr
    · exact hpss hp
    · exact h.ended hf
  | some r =>
    have hmore : receivedBytes (e :: tr') = receivedBytes tr' ++ r.bytes := by
      simp [receivedBytes_cons, hl]
    obtain ⟨hpre, hfin⟩ := hrecv r hl
    refine ⟨hmore ▸ hpre, fun hf => ?_⟩
    rw [hmore]
    rcases hf.of_cons with ⟨r', hr, hf⟩ | hp | hf
    · rw [hl] at hr
      obtain rfl := Option.some.inj hr
      exact hfin hf
    · -- one event is not both
      exfalso
      cases hlab : e.label with
      | call => rw [hlab] at hp; exact hp
      | event ev => rw [hlab] at hp hl; cases ev <;> first | exact hp | cases hl
    · -- the writer sends nothing behind the end, so nothing more is received
      obtain ⟨hfinished, hall⟩ := h.ended hf
      refine ⟨hfinished, hpre.eq_of_length_le ?_⟩
      rw [hall, List.length_append]
      exact Nat.le_add_right _ _

section

variable [RangeSet R] [LawfulRangeSet R] [WillWake ω] [StatusApi] {w : Nat}
  {tr : List (Step (StreamSys R ω × StreamSys R ω) (StreamLabel ω ⊕ StreamLabel ω)
    (Out ω StreamCall StreamRes ⊕ Out ω StreamCall StreamRes))} {s t : StreamSys R ω}

/-- What is handed out was written before, and when everything received has been handed out the
writer has ended the stream and nothing is under way. -/
theorem pipe_flow (h : (pipe R ω w).Run tr (s, t)) :
    handedOut (rights tr) <+: writtenBytes (lefts tr) ∧
      (AllDelivered (rights tr) →
        Finished (lefts tr) ∧ handedOut (rights tr) = writtenBytes (lefts tr)) := by
  have hinv : PipeInv (lefts tr) (rights tr) := h.beside_invariant .start
    (fun _ _ _ _ hrun _ _ hi => hi.write hrun) fun _ _ _ _ _ _ hc hi => hi.read hc
  rw [← sentBytes_eq h.left]
  refine ⟨(delivery_run h.right).handedOut_isStart.trans hinv.received, fun ⟨hfin, hall⟩ => ?_⟩
  obtain ⟨hfinished, hrecv⟩ := hinv.ended hfin
  rw [← hrecv, hall]
  exact ⟨hfinished, rfl⟩

/-- **Writes reach the other end's reads**: in order, unchanged, none of them twice, and with
the end behind the last one. -/
theorem pipe_in_order (h : (pipe R ω w).Run tr (s, t)) :
    handedOut (rights tr) <+: writtenBytes (lefts tr) ∧
      ∀ op : StreamOp ω, op.IsNonEmptyRead → (t.call w op).result.EndOfStream →
        Finished (lefts tr) ∧ handedOut (rights tr) = writtenBytes (lefts tr) := by
  obtain ⟨hpre, hflow⟩ := pipe_flow h
  exact ⟨hpre, fun op hop hend => hflow (allDelivered_of_end h.right hop hend)⟩

end

theorem writerContract_of [StatusApi] {tr : List (StreamStep R ω)} {s : StreamSys R ω}
    {l : StreamLabel ω} (ho : SendOrder tr s l) (hc : l.completes? = none)
    (hp : ∀ pieces, l.pieces? = some pieces → ∀ c ∈ pieces, c.length < 2 ^ 32) :
    WriterContract tr s l :=
  ⟨ho, hp, fun _ h => by rw [hc] at h; cases h⟩

theorem writerContract_peerAccepted [StatusApi] {s : StreamSys R ω} {e : StreamStep R ω}
    (hl : s.inner.localOpen = true) (hs : s.inner.state = .start) (he : ¬ e.label.Accepts) :
    WriterContract [e] s (.event .peerAccepted) := by
  refine writerContract_of ⟨fun _ => ⟨?_, hs⟩, id⟩ rfl fun _ h => by cases h
  rintro (⟨h, -⟩ | ⟨e', he', h⟩)
  · exact absurd (hl.symm.trans h) Bool.noConfusion
  · rcases List.mem_singleton.mp he' with rfl
    exact he h

/-- Two writes, one event and one read carry three bytes and the end. -/
theorem pipe_in_order_three :
    ∃ (tr : List (Step (StreamSys Coalesced Nat × StreamSys Coalesced Nat)
        (StreamLabel Nat ⊕ StreamLabel Nat)
        (Out Nat StreamCall StreamRes ⊕ Out Nat StreamCall StreamRes)))
      (s t : StreamSys Coalesced Nat),
      (pipe Coalesced Nat 64).Run tr (s, t) ∧
      tr.map Step.label =
        [.inr (.call (.pollReadChunk 7)),
          .inr (.event (.receive 0 3 [.ofSlice [1, 2, 3]] { fin := true })),
          .inl (.call (.pollWriteChunk 7 [3] true .NONE 2 (.ok ()))),
          .inl (.call (.pollWrite 7 [1, 2] false .NONE 1 (.ok ()))), .inl (.event .peerAccepted),
          .inl (.call (.pollStart 7 false (.ok ())))] ∧
      (t.call 64 (.pollRead 7 4)).result = .read (.ready (.ok [])) ∧
      Finished (lefts tr) ∧ handedOut (rights tr) = writtenBytes (lefts tr) := by
  have h0 := System.Run.start (S := pipe Coalesced Nat 64) (s := (_, _))
    ⟨.opened .bidirectional, .fromRaw .bidirectional⟩
  have h1 := h0.step_inl (.call (.pollStart 7 false (.ok ())))
    (writerContract_of (sendOrder_of id id) rfl fun _ h => by cases h) trivial
  have h2 := h1.step_inl (.event .peerAccepted)
    (writerContract_peerAccepted rfl rfl id) trivial
  have h3 := h2.step_inl (.call (.pollWrite 7 [1, 2] false .NONE 1 (.ok ())))
    (writerContract_of (sendOrder_of id fun h => by cases h) rfl fun _ hp =>
      Option.some.inj hp ▸ by decide) trivial
  have h4 := h3.step_inl (.call (.pollWriteChunk 7 [3] true .NONE 2 (.ok ())))
    (writerContract_of (sendOrder_of id fun h => by cases h) rfl fun _ hp =>
      Option.some.inj hp ▸ by decide) trivial
  have h5 := h4.step_inr (.event (.receive 0 3 [.ofSlice [1, 2, 3]] { fin := true }))
    (deliveryContract_first (by simp [QuicBuffer.ofSlice_bytes]))
    ⟨fun r hr => Option.some.inj hr ▸ ⟨List.prefix_refl _, fun _ =>
      ⟨⟨_, .head _, _, .head _, rfl⟩, rfl⟩⟩, False.elim⟩
  have h6 := h5.step_inr (.call (.pollReadChunk 7)) (deliveryContract_call id)
    ⟨fun _ h => (by cases h), False.elim⟩
  exact ⟨_, _, _, h6, rfl, rfl, (pipe_in_order h6).2 (.pollRead 7 4) (Nat.succ_pos 3) rfl⟩

end MsquicAsync
