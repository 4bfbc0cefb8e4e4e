import MsquicAsync.Stream.SendCalls

/-!
# The send side towards MsQuic

What a stream sends, over a whole run: plain sends, then at most one call that
ends the send side, then nothing (`SendForm`), and nothing before the peer's
acceptance or after ShutdownComplete. An acceptance opens the send side again
even when PeerReceiveAborted or SendShutdownComplete has closed it in the
meantime, so after these two nothing is sent until then (`SendEnded`).
-/

namespace MsquicAsync

open Runs Ranges

variable {R ω : Type}

/-- The successful calls in the send direction, oldest first. -/
def sentCalls (tr : List (StreamStep R ω)) : List SendCall :=
  tr.reverse.flatMap fun e => sendCalls e.out.calls

@[simp] theorem sentCalls_cons {e : StreamStep R ω} {tr : List (StreamStep R ω)} :
    sentCalls (e :: tr) = sentCalls tr ++ sendCalls e.out.calls := by
  simp [sentCalls]

/-- Plain sends, then at most one call that ends the send side. -/
def SendForm (calls : List SendCall) : Prop :=
  ∃ plain, (∀ c ∈ plain, c = .plain) ∧ (calls = plain ∨ calls = plain ++ [.last])

/-- PeerReceiveAborted or SendShutdownComplete was handled, and no acceptance since. -/
def SendEnded [StatusApi] : List (StreamStep R ω) → Prop
  | [] => False
  | e :: tr => e.label.EndsSend ∨ (SendEnded tr ∧ ¬ e.label.Accepts)

/-- The law of the send side: the form of what is sent, and when. -/
structure SendLaw [StatusApi] (tr : List (StreamStep R ω)) : Prop where
  form : SendForm (sentCalls tr)
  steps : ∀ e tr', e :: tr' <:+ tr → sendCalls e.out.calls ≠ [] →
    Accepted tr' e.pre ∧ ¬ SendEnded tr' ∧ ∀ e' ∈ tr', ¬ e'.label.IsShutdownComplete

/-- Acceptance is indicated at most once and only while the stream is starting; the extra flags
of a write do not carry FIN. -/
structure SendOrder [StatusApi] (tr : List (StreamStep R ω)) (s : StreamSys R ω)
    (l : StreamLabel ω) : Prop where
  accepts : l.Accepts → ¬ Accepted tr s ∧ s.inner.state = .start
  extraFlags : ¬ l.ExtraFin

/-- What holds after a history of the send side. -/
structure SendInv [StatusApi] (tr : List (StreamStep R ω)) (s : StreamSys R ω) : Prop where
  form : SendForm (sentCalls tr)
  /-- The send side is open only while nothing has closed it. -/
  writable : s.inner.sendState = .startComplete →
    (∀ c ∈ sentCalls tr, c = .plain) ∧ Accepted tr s ∧ ¬ SendEnded tr ∧
      ∀ e ∈ tr, ¬ e.label.IsShutdownComplete
  unaccepted : ¬ Accepted tr s → sentCalls tr = []
  down : (∃ e ∈ tr, e.label.IsShutdownComplete) ↔ s.inner.state = .shutdownComplete

theorem sendForm_of_plain {calls : List SendCall} (h : ∀ c ∈ calls, c = .plain) :
    SendForm calls :=
  ⟨calls, h, .inl rfl⟩

section

variable [StatusApi] {s : StreamSys R ω} {tr : List (StreamStep R ω)}

theorem sendInv_init [RangeSet R] (h : StreamSys.Init s) : SendInv [] s where
  form := sendForm_of_plain (fun _ hc => by cases hc)
  writable hs := by
    refine ⟨fun _ hc => (by cases hc), ?_, id, fun _ he => (by cases he)⟩
    cases h with
    | opened => cases hs
    | fromRaw streamType =>
      cases streamType with
      | bidirectional => exact .inl ⟨rfl, rfl⟩
      | unidirectional => cases hs
  unaccepted _ := rfl
  down := by
    have hs : s.inner.state = .opened := by cases h <;> rfl
    rw [hs]
    simp

theorem SendInv.call {e : StreamStep R ω} {op : StreamOp ω} {s' : StreamSys R ω}
    (h : SendInv tr s) (hl : e.label = .call op) (hacc : Accepted (e :: tr) s' ↔ Accepted tr s)
    (hform : SendForm (sentCalls tr ++ sendCalls e.out.calls))
    (hsent : sendCalls e.out.calls = [] ∨ s.inner.sendState = .startComplete)
    (hopen : s'.inner.sendState = .startComplete →
      s.inner.sendState = .startComplete ∧ ∀ c ∈ sendCalls e.out.calls, c = .plain)
    (hstate : s.inner.state = .shutdownComplete ↔ s'.inner.state = .shutdownComplete) :
    SendInv (e :: tr) s' := by
  have hend : SendEnded (e :: tr) ↔ SendEnded tr := by
    simp [SendEnded, hl, StreamLabel.EndsSend, StreamLabel.Accepts]
  have hdown : ¬ e.label.IsShutdownComplete := by
    rw [hl]
    exact id
  constructor
  · rw [sentCalls_cons]
    exact hform
  · intro hs
    obtain ⟨hs, hplain⟩ := hopen hs
    obtain ⟨hp, ha, he, hd⟩ := h.writable hs
    rw [sentCalls_cons, hacc, hend]
    exact ⟨fun c hc => (List.mem_append.mp hc).elim (hp c) (hplain c), ha, he,
      List.forall_mem_cons.mpr ⟨hdown, hd⟩⟩
  · intro hna
    rw [hacc] at hna
    rw [sentCalls_cons, h.unaccepted hna]
    rcases hsent with hsent | hsent
    · exact hsent
    · exact absurd (h.writable hsent).2.1 hna
  · rw [List.exists_mem_cons_iff, or_iff_right hdown, h.down]
    exact hstate

theorem SendInv.event {e : StreamStep R ω} {s' : StreamSys R ω} (h : SendInv tr s)
    (hc : sendCalls e.out.calls = [])
    (hacc : Accepted (e :: tr) s' ↔ e.label.Accepts ∨ Accepted tr s)
    (hopen : s'.inner.sendState = .startComplete →
      (∀ c ∈ sentCalls tr, c = .plain) ∧ Accepted (e :: tr) s' ∧ ¬ SendEnded (e :: tr) ∧
        ∀ e' ∈ e :: tr, ¬ e'.label.IsShutdownComplete)
    (hdown : e.label.IsShutdownComplete ∨ s.inner.state = .shutdownComplete ↔
      s'.inner.state = .shutdownComplete) : SendInv (e :: tr) s' := by
  have hsent : sentCalls (e :: tr) = sentCalls tr := by rw [sentCalls_cons, hc, List.append_nil]
  constructor
  · rw [hsent]
    exact h.form
  · rw [hsent]
    exact hopen
  · intro hna
    rw [hsent]
    exact h.unaccepted (fun ha => hna (hacc.mpr (.inr ha)))
  · rw [List.exists_mem_cons_iff, h.down]
    exact hdown

theorem SendInv.step {e : StreamStep R ω} {s' : StreamSys R ω} (h : SendInv tr s)
    (hok : SendOrder tr s e.label)
    (hstep : SendStep e.label s.inner.state s.inner.sendState (sendCalls e.out.calls)
      s'.inner.state s'.inner.sendState)
    (hacc : Accepted (e :: tr) s' ↔ e.label.Accepts ∨ Accepted tr s) : SendInv (e :: tr) s' := by
  obtain ⟨haccepts, hextra⟩ := hok
  generalize hl : e.label = l, hcs : sendCalls e.out.calls = cs, ha : s.inner.state = a,
    hb : s.inner.sendState = b, ha' : s'.inner.state = a', hb' : s'.inner.sendState = b' at hstep
  -- what a call leaves of the acceptance
  have hcall {op : StreamOp ω} (hl : e.label = .call op) :
      Accepted (e :: tr) s' ↔ Accepted tr s := by
    rw [hacc, hl]
    exact or_iff_right id
  cases hstep with
  | idle =>
    refine h.call hl (hcall hl) ?_ (.inl hcs) (fun hs => ⟨?_, ?_⟩) ?_
    · rw [hcs, List.append_nil]
      exact h.form
    · rw [hb, ← hb', hs]
    · rw [hcs]
      exact List.forall_mem_nil _
    · rw [ha', ha]
  | started =>
    refine h.call hl (hcall hl) ?_ (.inl hcs) (fun hs => ?_) ?_
    · rw [hcs, List.append_nil]
      exact h.form
    · rw [hb'] at hs
      cases hs
    · rw [ha, ha']
      simp
  | @sent op _ c hforced =>
    have hplain : ∀ c' ∈ [c], c' = SendCall.plain := by
      intro c' hc'
      rw [List.mem_singleton.mp hc']
      cases c with
      | plain => rfl
      | last =>
        rw [hl] at hextra
        exact absurd (hforced rfl) hextra
    obtain ⟨hp, -⟩ := h.writable hb
    refine h.call hl (hcall hl) ?_ (.inr hb) (fun _ => ⟨hb, ?_⟩) ?_
    · rw [hcs]
      exact sendForm_of_plain (List.forall_mem_append.mpr ⟨hp, hplain⟩)
    · rw [hcs]
      exact hplain
    · rw [ha', ha]
  | finished =>
    obtain ⟨hp, -⟩ := h.writable hb
    refine h.call hl (hcall hl) ?_ (.inr hb) (fun hs => ?_) ?_
    · rw [hcs]
      exact ⟨_, hp, .inr rfl⟩
    · rw [hb'] at hs
      cases hs
    · rw [ha', ha]
  | event hna hne hns =>
    rw [← hl] at hna hne hns
    refine h.event hcs hacc (fun hs => ?_) ?_
    · rw [hb', ← hb] at hs
      obtain ⟨hp, hac, hend, hdown⟩ := h.writable hs
      refine ⟨hp, hacc.mpr (.inr hac), fun hend' => ?_,
        List.forall_mem_cons.mpr ⟨fun hsc => ?_, hdown⟩⟩
      · exact hend (hend'.resolve_left hne).1
      · -- a second ShutdownComplete: the first one has closed the send side
        obtain ⟨e', he', hsc'⟩ := h.down.mpr (ha.trans (hns hsc))
        exact hdown e' he' hsc'
    · rw [ha', ha]
      exact or_iff_right_of_imp hns
  | accepted hev =>
    rw [← hl] at hev
    obtain ⟨hnac, hstart⟩ := haccepts hev
    have hnsc := hev.not_isShutdownComplete
    have hup : ¬ s.inner.state = .shutdownComplete := by
      rw [hstart]
      exact fun hs => by cases hs
    refine h.event hcs hacc (fun _ => ⟨?_, hacc.mpr (.inl hev), fun hend => ?_,
      List.forall_mem_cons.mpr ⟨hnsc, fun e' he' hsc => hup (h.down.mp ⟨e', he', hsc⟩)⟩⟩) ?_
    · rw [h.unaccepted hnac]
      exact List.forall_mem_nil _
    · exact (hend.resolve_left hev.not_endsSend).2 hev
    · rw [ha']
      exact iff_of_false (not_or.mpr ⟨hnsc, hup⟩) (fun hs => by cases hs)
  | ended hev =>
    rw [← hl] at hev
    refine h.event hcs hacc (fun hs => ?_) ?_
    · rw [hb'] at hs
      cases hs
    · rw [ha', ha]
      exact or_iff_right hev.not_isShutdownComplete
  | shutDown hev =>
    rw [← hl] at hev
    refine h.event hcs hacc (fun hs => ?_) (iff_of_true (.inl hev) ha')
    rw [hb'] at hs
    cases hs

end

section

variable [RangeSet R] [WillWake ω] [StatusApi] {w : Nat} {s : StreamSys R ω}
  {tr : List (StreamStep R ω)}

theorem StreamSys.sendState_of_sendCalls {l : StreamLabel ω}
    (h : sendCalls (s.step w l).calls ≠ []) : s.inner.sendState = .startComplete := by
  have hstep := step_send (w := w) (s := s) l
  generalize s.inner.state = a, s.inner.sendState = b, sendCalls (s.step w l).calls = cs,
    (s.step w l).state.inner.state = a', (s.step w l).state.inner.sendState = b' at hstep h
  cases hstep with
  | sent | finished => rfl
  | _ => exact absurd rfl h

/-- **The send side keeps its law**, over every run in MsQuic's order. -/
theorem send_law (h : (streamSystem w SendOrder).Run tr s) : SendLaw tr := by
  have hinv {tr' : List (StreamStep R ω)} {s' : StreamSys R ω}
      (h' : (streamSystem w SendOrder).Run tr' s') : SendInv tr' s' :=
    h'.invariant (fun _ => sendInv_init) fun tr' s' l _ hok hi =>
      hi.step hok (StreamSys.step_send l) (accepted_step _ _ l)
  refine ⟨(hinv h).form, fun e tr' hsuf hne => ?_⟩
  obtain ⟨hr, -, he⟩ := h.of_suffix hsuf
  rw [he] at hne
  obtain ⟨-, hrest⟩ := (hinv hr).writable (StreamSys.sendState_of_sendCalls hne)
  exact hrest

end

theorem sendOrder_of [StatusApi] {tr : List (StreamStep R ω)} {s : StreamSys R ω}
    {l : StreamLabel ω} (ha : ¬ l.Accepts) (hf : ¬ l.ExtraFin) : SendOrder tr s l :=
  ⟨fun h => absurd h ha, hf⟩

/-- A stream is accepted, writes and finishes. -/
theorem send_law_finish :
    ∃ (tr : List (StreamStep Coalesced Nat)) (s : StreamSys Coalesced Nat),
      (streamSystem 64 SendOrder).Run tr s ∧
      tr.map Step.label =
        [.call (.pollFinishWrite 7 (.ok ())), .call (.pollWrite 7 [1] false .NONE 1 (.ok ())),
          .event .peerAccepted, .call (.pollStart 7 false (.ok ()))] ∧
      sentCalls tr = [.plain, .last] ∧ SendLaw tr := by
  have h0 := System.Run.start (S := streamSystem (R := Coalesced) (ω := Nat) 64 SendOrder)
    (.opened .bidirectional)
  have h1 := h0.step (.call (.pollStart 7 false (.ok ()))) (sendOrder_of id id)
  have h2 := h1.step (.event .peerAccepted)
    ⟨fun _ => ⟨by simp [Accepted, streamSystem, StreamSys.step, StreamSys.call, StreamSys.after,
      Stream.pollStart, StreamInner.opened, StreamInner.new, StreamLabel.Accepts], rfl⟩, id⟩
  have h3 := h2.step (.call (.pollWrite 7 [1] false .NONE 1 (.ok ())))
    (sendOrder_of id (fun h => by cases h))
  have h4 := h3.step (.call (.pollFinishWrite 7 (.ok ()))) (sendOrder_of id id)
  exact ⟨_, _, h4, rfl, rfl, send_law h4⟩

/-- PeerReceiveAborted reaches a stream that is starting: the acceptance that follows opens the
send side again, and a write is sent. -/
theorem write_after_receive_aborted :
    ∃ (tr : List (StreamStep Coalesced Nat)) (s : StreamSys Coalesced Nat),
      (streamSystem 64 SendOrder).Run tr s ∧
      tr.map Step.label =
        [.call (.pollWrite 7 [1] false .NONE 1 (.ok ())), .event .peerAccepted,
          .event (.peerReceiveAborted 0), .call (.pollStart 7 false (.ok ()))] ∧
      ∃ e tr', e :: tr' <:+ tr ∧ sendCalls e.out.calls = [.plain] ∧
        ∃ e' ∈ tr', e'.label.EndsSend := by
  have h0 := System.Run.start (S := streamSystem (R := Coalesced) (ω := Nat) 64 SendOrder)
    (.opened .bidirectional)
  have h1 := h0.step (.call (.pollStart 7 false (.ok ()))) (sendOrder_of id id)
  have h2 := h1.step (.event (.peerReceiveAborted 0)) (sendOrder_of id id)
  have h3 := h2.step (.event .peerAccepted)
    ⟨fun _ => ⟨by simp [Accepted, streamSystem, StreamSys.step, StreamSys.call, StreamSys.after,
      StreamSys.dispatchEvent, Stream.pollStart, Stream.handleEventPeerReceiveAborted,
      Stream.sendDone, StreamInner.opened, StreamInner.new, StreamLabel.Accepts], rfl⟩, id⟩
  have h4 := h3.step (.call (.pollWrite 7 [1] false .NONE 1 (.ok ())))
    (sendOrder_of id (fun h => by cases h))
  exact ⟨_, _, h4, rfl, _, _, List.suffix_refl _, rfl, _,
    .tail _ (.head _), trivial⟩

end MsquicAsync
