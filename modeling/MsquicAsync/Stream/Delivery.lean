import MsquicAsync.Stream.Accounting

/-!
# In-order delivery and the end of the stream

What the reads hand out, in the order they take the lock, followed by what the
queue has left, is what was received (`Delivery`). The end of the stream is
reported from two receive states: a read that pops the FIN buffer leads to
Shutdown, and PeerSendShutdown or ShutdownComplete lead to ShutdownComplete. In
both an answer without an error comes only after everything was handed out.
-/

namespace MsquicAsync

open Runs Ranges Loops Tiling

variable {R ω : Type}

/-! ## Histories -/

/-- The bytes received, oldest first. -/
def receivedBytes (tr : List (StreamStep R ω)) : Bytes := (receives tr).reverse.flatMap Receive.bytes

/-- The bytes that reads have handed out, oldest first. -/
def handedOut (tr : List (StreamStep R ω)) : Bytes :=
  tr.reverse.flatMap fun e => handedBytes e.out.result

def StreamLabel.IsPeerSendShutdown : StreamLabel ω → Prop
  | .event .peerSendShutdown => True
  | _ => False

/-- PeerSendAborted or CancelOnLoss. -/
def StreamLabel.BreaksOff : StreamLabel ω → Prop
  | .event (.peerSendAborted _) | .event (.cancelOnLoss _) => True
  | _ => False

/-- A call that aborts reading. -/
def StreamLabel.AbortsReading : StreamLabel ω → Prop
  | .call (.pollAbortRead _ _ _) | .call (.abortRead _ _) => True
  | _ => False

/-- The peer's FIN has arrived. -/
def FinReceived (tr : List (StreamStep R ω)) : Prop :=
  (∃ r ∈ receives tr, r.fin = true) ∨ ∃ e ∈ tr, e.label.IsPeerSendShutdown

/-- Receive events are contiguous, of non-empty segments, with FIN only on the last one, and
stop at ShutdownComplete. PeerSendShutdown comes only once everything is completed, so
nothing more is received after it. A ShutdownComplete that the connection did not cause
comes after PeerSendShutdown, PeerSendAborted or CancelOnLoss. Reading is not aborted. -/
structure DeliveryContract (tr : List (StreamStep R ω)) (s : StreamSys R ω) (l : StreamLabel ω) :
    Prop where
  contiguous : Contiguous tr l
  segments : ∀ r, l.receive? = some r → ∀ x ∈ r.buffers, x.bytes ≠ []
  last : ∀ r, l.receive? = some r → ∀ r' ∈ receives tr, r'.fin = false
  final : ∀ r, l.receive? = some r → (∃ e ∈ tr, e.label.IsPeerSendShutdown) → r.bytes = []
  stops : ∀ r, l.receive? = some r → ∀ e ∈ tr, ¬ e.label.IsShutdownComplete
  completed : l.IsPeerSendShutdown → completedLen tr = receivedLen tr
  caused : ∀ ac ba cr ec st, l = .event (.shutdownComplete false ac ba cr ec st) →
    ∃ e ∈ tr, e.label.IsPeerSendShutdown ∨ e.label.BreaksOff
  noAbort : ¬ l.AbortsReading

section

variable {tr : List (StreamStep R ω)} {e : StreamStep R ω}

theorem receivedBytes_cons :
    receivedBytes (e :: tr) = receivedBytes tr ++ e.label.receive?.toList.flatMap Receive.bytes := by
  cases h : e.label.receive? <;> simp [receivedBytes, receives_cons, h]

theorem handedOut_cons : handedOut (e :: tr) = handedOut tr ++ handedBytes e.out.result := by
  simp [handedOut]

theorem FinReceived.cons (h : FinReceived tr) : FinReceived (e :: tr) := by
  rcases h with ⟨r, hr, hf⟩ | ⟨e', he, hp⟩
  · exact .inl ⟨r, by rw [receives_cons]; exact List.mem_append_right _ hr, hf⟩
  · exact .inr ⟨e', List.mem_cons_of_mem _ he, hp⟩

end

/-! ## What is complete when everything is -/

section

variable [RangeSet R] [LawfulRangeSet R] {w : Nat} {tr : List (StreamStep R ω)} {s : StreamSys R ω}

/-- **When everything received is completed nothing is left to read.** However narrow a
`usize` is, the cursor is below its limit, so no offset has been cut off. -/
theorem Accounting.content_nil (h : Accounting w tr s)
    (ht : Tiles ((receives tr).map Receive.span) (receivedLen tr))
    (hc : completedLen tr = receivedLen tr) {b : StreamRecvBuffer}
    (hb : b ∈ s.held ++ s.inner.recvBuffers) : b.content = [] := by
  have hcursor : prefixEnd s.inner.readCompleteMap = receivedLen tr := by
    rw [← h.cursor, ← h.completed, hc]
  have hcov {p : Nat} (hp : p < receivedLen tr) :
      ∃ b ∈ released tr, (b.range w).1 ≤ p ∧ p < (b.range w).2 :=
    (h.contains p).mp (contains_of_lt_prefixEnd (hcursor ▸ hp))
  have hle : receivedLen tr ≤ 2 ^ w := by
    by_contra hgt
    obtain ⟨b', -, -, hlt⟩ := hcov (p := 2 ^ w) (by omega)
    have := Nat.mod_lt (b'.offset + b'.len) (Nat.two_pow_pos w)
    simp only [StreamRecvBuffer.range] at hlt
    omega
  have hoff : ∀ r ∈ receives tr, r.bytes ≠ [] → r.absoluteOffset.toNat < 2 ^ w := by
    intro r hr hne
    have hend : r.absoluteOffset.toNat + r.bytes.length ≤ receivedLen tr :=
      ht.inSpan_lt (List.mem_map_of_mem hr)
    have := List.length_pos_of_ne_nil hne
    omega
  by_contra hne
  -- the first byte of the buffer is below the cursor, so in a released buffer too
  have hown : b.Covers b.offset :=
    ⟨Nat.le_refl _, Nat.lt_add_of_pos_right (List.length_pos_of_ne_nil hne)⟩
  have hbmem : b ∈ released tr ++ s.held ++ s.inner.recvBuffers := by
    rw [List.append_assoc]
    exact List.mem_append_right _ hb
  obtain ⟨r, hr, hrb⟩ := h.exists_receive hbmem
  have hspan : InSpan b.offset r.span := Receive.span_of_covers (hoff r hr) (hrb ▸ hown)
  have hend := ht.inSpan_lt (List.mem_map_of_mem hr)
  obtain ⟨b', hb', h1, h2⟩ := hcov (Nat.lt_of_lt_of_le hspan.2 hend)
  obtain ⟨r', -, hrb'⟩ := h.exists_receive (List.mem_append_left _ (List.mem_append_left _ hb'))
  refine h.disjoint ht hoff hb' hb ⟨h1, ?_⟩ hown
  have hlen := StreamRecvBuffer.len_rewound_le hrb'
  have hmod := Nat.mod_le (b'.offset + b'.len) (2 ^ w)
  simp only [StreamRecvBuffer.range] at h2
  omega

theorem unreadBytes_eq_nil {q : List StreamRecvBuffer} (h : ∀ b ∈ q, b.content = []) :
    unreadBytes q = [] :=
  List.flatMap_eq_nil_iff.mpr fun b hb => StreamRecvBuffer.unread_of_content_nil (h b hb)

end

/-! ## The invariant -/

/-- An error that every read answers with once the receive side has ended. -/
def StreamInner.ErrorRecorded (x : StreamInner R ω) : Prop :=
  x.connError.isSome ∨ x.cancelledOnLoss = true ∨ x.recvErrorCode.isSome

/-- The peer's FIN has arrived and everything before it has been handed out. -/
def AllDelivered (tr : List (StreamStep R ω)) : Prop :=
  FinReceived tr ∧ receivedBytes tr = handedOut tr

structure Delivery (tr : List (StreamStep R ω)) (s : StreamSys R ω) : Prop where
  wellFormed : ∀ b ∈ s.inner.recvBuffers, b.WellFormed
  finLast : (s.inner.recvBuffers.map StreamRecvBuffer.rewound).Pairwise fun a _ => a.fin = false
  /-- Nothing is lost, unless a broken-off stream has been shut down. -/
  flow : receivedBytes tr = handedOut tr ++ unreadBytes s.inner.recvBuffers ∨
    (s.inner.ErrorRecorded ∧ s.inner.recvBuffers = [] ∧ (∃ e ∈ tr, e.label.IsShutdownComplete) ∧
      handedOut tr <+: receivedBytes tr)
  shutdown : s.inner.recvState = .shutdown → AllDelivered tr
  shutdownComplete : s.inner.recvState = .shutdownComplete → s.inner.ErrorRecorded ∨ AllDelivered tr
  peerSendShutdown : (∃ e ∈ tr, e.label.IsPeerSendShutdown) →
    s.inner.ErrorRecorded ∨ AllDelivered tr
  breaksOff : (∃ e ∈ tr, e.label.BreaksOff) → s.inner.ErrorRecorded

section

variable {tr : List (StreamStep R ω)} {e : StreamStep R ω}

theorem AllDelivered.cons (h : AllDelivered tr)
    (hrec : e.label.receive?.toList.flatMap Receive.bytes = [])
    (hhand : handedBytes e.out.result = []) : AllDelivered (e :: tr) := by
  refine ⟨h.1.cons, ?_⟩
  rw [receivedBytes_cons, handedOut_cons, hrec, hhand, h.2]

theorem receivedBytes_none (hrec : e.label.receive? = none) :
    receivedBytes (e :: tr) = receivedBytes tr := by
  simp [receivedBytes_cons, hrec]

theorem handedOut_none (hhand : handedBytes e.out.result = []) :
    handedOut (e :: tr) = handedOut tr := by
  simp [handedOut_cons, hhand]

theorem Delivery.flow_same (h : Delivery tr e.pre) (hrec : e.label.receive? = none)
    (hhand : handedBytes e.out.result = [])
    (hq : e.post.inner.recvBuffers = e.pre.inner.recvBuffers)
    (herr : e.pre.inner.ErrorRecorded → e.post.inner.ErrorRecorded) :
    receivedBytes (e :: tr) = handedOut (e :: tr) ++ unreadBytes e.post.inner.recvBuffers ∨
      (e.post.inner.ErrorRecorded ∧ e.post.inner.recvBuffers = [] ∧
        (∃ e' ∈ e :: tr, e'.label.IsShutdownComplete) ∧
        handedOut (e :: tr) <+: receivedBytes (e :: tr)) := by
  rw [receivedBytes_none hrec, handedOut_none hhand, hq]
  exact h.flow.imp id fun ⟨h1, h2, h3, h4⟩ =>
    ⟨herr h1, h2, h3.imp fun _ he => ⟨List.mem_cons_of_mem _ he.1, he.2⟩, h4⟩

theorem Delivery.breaksOff_cons (h : Delivery tr e.pre)
    (herr : e.pre.inner.ErrorRecorded → e.post.inner.ErrorRecorded)
    (hbrk : e.label.BreaksOff → e.post.inner.ErrorRecorded) :
    (∃ e' ∈ e :: tr, e'.label.BreaksOff) → e.post.inner.ErrorRecorded := by
  rintro ⟨e', he', hb⟩
  rcases List.mem_cons.mp he' with rfl | he'
  · exact hbrk hb
  · exact herr (h.breaksOff ⟨e', he', hb⟩)

theorem Delivery.peerSendShutdown_cons (h : Delivery tr e.pre)
    (herr : e.pre.inner.ErrorRecorded → e.post.inner.ErrorRecorded)
    (hall : AllDelivered tr → AllDelivered (e :: tr)) (hpss : ¬ e.label.IsPeerSendShutdown) :
    (∃ e' ∈ e :: tr, e'.label.IsPeerSendShutdown) →
      e.post.inner.ErrorRecorded ∨ AllDelivered (e :: tr) := by
  rintro ⟨e', he', hp⟩
  rcases List.mem_cons.mp he' with rfl | he'
  · exact absurd hp hpss
  · exact (h.peerSendShutdown ⟨e', he', hp⟩).imp herr hall

theorem Delivery.quiet (h : Delivery tr e.pre) (hrec : e.label.receive? = none)
    (hhand : handedBytes e.out.result = [])
    (hq : e.post.inner.recvBuffers = e.pre.inner.recvBuffers)
    (herr : e.pre.inner.ErrorRecorded → e.post.inner.ErrorRecorded)
    (hstate : e.post.inner.recvState = e.pre.inner.recvState ∨ e.post.inner.recvState = .start ∨
      e.post.inner.recvState = .startComplete)
    (hpss : ¬ e.label.IsPeerSendShutdown) (hbrk : ¬ e.label.BreaksOff) :
    Delivery (e :: tr) e.post := by
  have hall (hd : AllDelivered tr) : AllDelivered (e :: tr) := hd.cons (by simp [hrec]) hhand
  refine ⟨hq ▸ h.wellFormed, hq ▸ h.finLast, h.flow_same hrec hhand hq herr, fun hs => ?_,
    fun hs => ?_, h.peerSendShutdown_cons herr hall hpss,
    h.breaksOff_cons herr fun hb => absurd hb hbrk⟩
  · rcases hstate with hst | hst | hst <;> rw [hst] at hs
    · exact hall (h.shutdown hs)
    · cases hs
    · cases hs
  · rcases hstate with hst | hst | hst <;> rw [hst] at hs
    · exact (h.shutdownComplete hs).imp herr hall
    · cases hs
    · cases hs

theorem Delivery.ended (h : Delivery tr e.pre) (hrec : e.label.receive? = none)
    (hhand : handedBytes e.out.result = [])
    (hq : e.post.inner.recvBuffers = e.pre.inner.recvBuffers)
    (herr : e.pre.inner.ErrorRecorded → e.post.inner.ErrorRecorded)
    (hbrk : e.label.BreaksOff → e.post.inner.ErrorRecorded)
    (hs : e.post.inner.recvState = .shutdown → e.pre.inner.recvState = .shutdown)
    (hended : e.post.inner.ErrorRecorded ∨ AllDelivered (e :: tr)) : Delivery (e :: tr) e.post := by
  refine ⟨hq ▸ h.wellFormed, hq ▸ h.finLast, h.flow_same hrec hhand hq herr, fun hs' => ?_,
    fun _ => hended, fun _ => hended, h.breaksOff_cons herr hbrk⟩
  exact (h.shutdown (hs hs')).cons (by simp [hrec]) hhand

theorem Delivery.discard (h : Delivery tr e.pre) (hrec : e.label.receive? = none)
    (hhand : handedBytes e.out.result = []) (hq : e.post.inner.recvBuffers = [])
    (herr : e.pre.inner.ErrorRecorded → e.post.inner.ErrorRecorded)
    (hbrk : ¬ e.label.BreaksOff) (hsc : e.label.IsShutdownComplete)
    (hs : e.post.inner.recvState ≠ .shutdown)
    (hended : e.post.inner.ErrorRecorded ∨ AllDelivered (e :: tr)) : Delivery (e :: tr) e.post := by
  refine ⟨by simp [hq], by simp [hq], ?_, fun hs' => absurd hs' hs, fun _ => hended,
    fun _ => hended, h.breaksOff_cons herr fun hb => absurd hb hbrk⟩
  rcases hended with herr' | ⟨-, hd⟩
  · refine .inr ⟨herr', hq, ⟨e, List.mem_cons_self, hsc⟩, ?_⟩
    rw [receivedBytes_none hrec, handedOut_none hhand]
    rcases h.flow with hf | ⟨-, -, -, hpre⟩
    · exact ⟨_, hf.symm⟩
    · exact hpre
  · left
    rw [hd, hq, unreadBytes_nil, List.append_nil]

/-! ## Reads -/

section

variable {popped : List StreamRecvBuffer} {calls : List StreamCall}

/-- The flow of a read: what it hands out comes from the front of the queue. -/
theorem Delivery.flow_read (h : Delivery tr e.pre) (hrec : e.label.receive? = none)
    (he : ReadEffect e.pre.inner e.post.inner popped (handedBytes e.out.result) calls)
    (herr : e.pre.inner.ErrorRecorded → e.post.inner.ErrorRecorded) :
    receivedBytes (e :: tr) = handedOut (e :: tr) ++ unreadBytes e.post.inner.recvBuffers ∨
      (e.post.inner.ErrorRecorded ∧ e.post.inner.recvBuffers = [] ∧ popped = [] ∧
        (∃ e' ∈ e :: tr, e'.label.IsShutdownComplete) ∧
        handedOut (e :: tr) <+: receivedBytes (e :: tr)) := by
  rcases h.flow with hf | ⟨h1, h2, ⟨e', he', hsc⟩, h4⟩
  · left
    rw [receivedBytes_none hrec, hf, handedOut_cons, he.unread, List.append_assoc]
  · right
    have hnil : popped ++ e.post.inner.recvBuffers = [] := by
      have := he.rewound
      rw [h2] at this
      exact List.map_eq_nil_iff.mp this.symm
    obtain ⟨hp, hq⟩ := List.append_eq_nil_iff.mp hnil
    have hout : handedBytes e.out.result = [] := by
      have := he.unread
      rw [h2] at this
      exact (List.append_eq_nil_iff.mp this.symm).1
    refine ⟨herr h1, hq, hp, ⟨e', List.mem_cons_of_mem _ he', hsc⟩, ?_⟩
    rw [receivedBytes_none hrec, handedOut_none hout]
    exact h4

theorem Delivery.nothing_left (h : Delivery tr e.pre)
    (he : ReadEffect e.pre.inner e.post.inner popped (handedBytes e.out.result) calls)
    (hd : receivedBytes tr = handedOut tr) : handedBytes e.out.result = [] := by
  have hun : unreadBytes e.pre.inner.recvBuffers = [] := by
    rcases h.flow with hf | ⟨-, hq, -⟩
    · rw [hd] at hf
      simpa using hf.symm
    · rw [hq]
      rfl
  exact (List.append_eq_nil_iff.mp (he.unread.symm.trans hun)).1

/-- The FIN buffer that a read pops is the last one of the queue. -/
theorem Delivery.empty_of_fin (h : Delivery tr e.pre)
    (he : ReadEffect e.pre.inner e.post.inner popped (handedBytes e.out.result) calls)
    {b : StreamRecvBuffer} (hb : b ∈ popped) (hfin : b.fin = true) :
    e.post.inner.recvBuffers = [] := by
  have hsplit := h.finLast
  rw [he.rewound, List.map_append] at hsplit
  by_contra hne
  obtain ⟨c, hc⟩ := List.exists_mem_of_ne_nil _ hne
  have := (List.pairwise_append.mp hsplit).2.2 _ (List.mem_map_of_mem hb) _
    (List.mem_map_of_mem hc)
  rw [StreamRecvBuffer.rewound_fin, hfin] at this
  cases this

theorem Accounting.finReceived [RangeSet R] {w : Nat} (hacc : Accounting w tr e.pre)
    (he : ReadEffect e.pre.inner e.post.inner popped (handedBytes e.out.result) calls)
    {b : StreamRecvBuffer} (hb : b ∈ popped) (hfin : b.fin = true) :
    ∃ r ∈ receives tr, r.fin = true := by
  have hmem : b.rewound ∈ e.pre.inner.recvBuffers.map StreamRecvBuffer.rewound := by
    rw [he.rewound]
    exact List.mem_map_of_mem (List.mem_append_left _ hb)
  obtain ⟨b', hb', hbb⟩ := List.mem_map.mp hmem
  obtain ⟨r, hr, hrb⟩ := hacc.exists_receive (List.mem_append_right _ hb')
  exact ⟨r, hr, (congrArg StreamRecvBuffer.fin (hrb.trans hbb)).trans hfin⟩

theorem Delivery.read [RangeSet R] {w : Nat} (h : Delivery tr e.pre) (hacc : Accounting w tr e.pre)
    (hrec : e.label.receive? = none) (hpss : ¬ e.label.IsPeerSendShutdown)
    (hbrk : ¬ e.label.BreaksOff)
    (he : ReadEffect e.pre.inner e.post.inner popped (handedBytes e.out.result) calls) :
    Delivery (e :: tr) e.post := by
  obtain ⟨_, _, _, _, hy⟩ := he.frame
  have herr : e.pre.inner.ErrorRecorded → e.post.inner.ErrorRecorded := by
    rw [hy]
    exact id
  have hsplit := h.finLast
  rw [he.rewound, List.map_append] at hsplit
  have hall (hd : AllDelivered tr) : AllDelivered (e :: tr) :=
    hd.cons (by simp [hrec]) (h.nothing_left he hd.2)
  have hflow := h.flow_read hrec he herr
  refine ⟨he.wellFormed h.wellFormed, (List.pairwise_append.mp hsplit).2.1,
    hflow.imp id fun ⟨h1, h2, _, h4⟩ => ⟨h1, h2, h4⟩, fun hs => ?_, fun hs => ?_,
    h.peerSendShutdown_cons herr hall hpss, h.breaksOff_cons herr fun hb => absurd hb hbrk⟩
  · rcases he.recvState with hst | ⟨-, -, b, hb, hfin⟩
    · exact hall (h.shutdown (hst ▸ hs))
    · obtain ⟨r, hr, hrfin⟩ := hacc.finReceived he hb hfin
      refine ⟨.inl ⟨r, by rw [receives_cons]; exact List.mem_append_right _ hr, hrfin⟩, ?_⟩
      rcases hflow with hf | ⟨-, -, hp, -⟩
      · rw [hf, h.empty_of_fin he hb hfin, unreadBytes_nil, List.append_nil]
      · rw [hp] at hb
        cases hb
  · rcases he.recvState with hst | ⟨-, hst, -⟩
    · exact (h.shutdownComplete (hst ▸ hs)).imp herr hall
    · rw [hst] at hs
      cases hs

end

end

/-! ## Every step keeps it -/

section

variable {x y : StreamInner R ω} {calls : List StreamCall}

theorem StartSide.recvBuffers (h : StartSide x y calls) : y.recvBuffers = x.recvBuffers := by
  obtain ⟨_, _, _, _, _, _, rfl⟩ := h.frame
  rfl

theorem StartSide.errorRecorded (h : StartSide x y calls) (he : x.ErrorRecorded) :
    y.ErrorRecorded := by
  obtain ⟨_, _, _, _, _, _, rfl⟩ := h.frame
  exact he

theorem StartSide.recvState (h : StartSide x y calls) :
    y.recvState = x.recvState ∨ y.recvState = .start ∨ y.recvState = .startComplete := by
  rcases h.states with ⟨-, hr, -⟩ | ⟨-, hr, -⟩ | ⟨-, hr, -⟩
  · exact .inl hr
  · exact hr.imp id .inl
  · exact hr.imp id .inr

end

theorem Delivery.start [RangeSet R] {s : StreamSys R ω} (h : StreamSys.Init s) : Delivery [] s := by
  have hnone {C : StreamStep R ω → Prop} {P : Prop} : (∃ e ∈ [], C e) → P := by simp
  rcases h with t | t
  all_goals
    refine ⟨fun b hb => ?_, .nil, .inl rfl, fun hs => ?_, fun hs => ?_, hnone, hnone⟩
    · cases hb
    · cases hs
    · cases hs

section

variable [RangeSet R] [WillWake ω] [StatusApi] {w : Nat} {tr : List (StreamStep R ω)}
  {s : StreamSys R ω}

theorem Delivery.receive (h : Delivery tr s) (hacc : Accounting w tr s)
    {absoluteOffset total : UInt64} {buffers : List QuicBuffer} {flags : ReceiveFlags}
    (hok : DeliveryContract tr s (.event (.receive absoluteOffset total buffers flags))) :
    Delivery ((streamSystem w DeliveryContract).take s
      (.event (.receive absoluteOffset total buffers flags)) :: tr)
      (s.step w (.event (.receive absoluteOffset total buffers flags))).state := by
  have hreceived : receivedBytes ((streamSystem w DeliveryContract).take s
      (.event (.receive absoluteOffset total buffers flags)) :: tr) =
      receivedBytes tr ++ buffers.flatMap QuicBuffer.bytes := by
    rw [receivedBytes_cons]
    exact congrArg (receivedBytes tr ++ ·) (List.append_nil _)
  have hhanded : handedOut ((streamSystem w DeliveryContract).take s
      (.event (.receive absoluteOffset total buffers flags)) :: tr) = handedOut tr := by
    rw [handedOut_cons]
    exact List.append_nil _
  -- nothing more comes once everything has been delivered
  have hall (hd : AllDelivered tr) : AllDelivered ((streamSystem w DeliveryContract).take s
      (.event (.receive absoluteOffset total buffers flags)) :: tr) := by
    refine hd.cons ?_ rfl
    rcases hd.1 with ⟨r, hr, hf⟩ | hp
    · rw [hok.last _ rfl r hr] at hf
      cases hf
    · have hnil := hok.final _ rfl hp
      simp only [Receive.bytes] at hnil
      simp [StreamLabel.receive?, Receive.bytes, hnil]
  have hfin : ∀ b ∈ s.inner.recvBuffers, b.fin = false := by
    intro b hb
    obtain ⟨r, hr, hrb⟩ := hacc.exists_receive (List.mem_append_right _ hb)
    have := congrArg StreamRecvBuffer.fin hrb
    exact this.symm.trans (hok.last _ rfl r hr)
  refine ⟨?_, ?_, ?_, fun hs => hall (h.shutdown hs), fun hs => (h.shutdownComplete hs).imp id hall,
    ?_, ?_⟩
  · intro b hb
    rcases List.mem_append.mp hb with hb | hb
    · exact h.wellFormed b hb
    · rw [List.mem_singleton.mp hb]
      exact ⟨StreamRecvBuffer.normal_new (hok.segments _ rfl), hok.segments _ rfl⟩
  · show (List.map _ (s.inner.recvBuffers ++ [_])).Pairwise _
    rw [List.map_append]
    refine List.pairwise_append.mpr ⟨h.finLast, List.pairwise_singleton _ _, ?_⟩
    intro a ha b _
    obtain ⟨c, hc, rfl⟩ := List.mem_map.mp ha
    exact hfin c hc
  · left
    rw [hreceived, hhanded]
    show _ = handedOut tr ++ unreadBytes (s.inner.recvBuffers ++ [_])
    rcases h.flow with hf | ⟨-, -, ⟨e, he, hsc⟩, -⟩
    · simp [hf]
    · exact absurd hsc (hok.stops _ rfl e he)
  · rintro ⟨e, he, hp⟩
    rcases List.mem_cons.mp he with rfl | he
    · exact hp.elim
    · exact (h.peerSendShutdown ⟨e, he, hp⟩).imp id hall
  · rintro ⟨e, he, hb⟩
    rcases List.mem_cons.mp he with rfl | he
    · exact hb.elim
    · exact h.breaksOff ⟨e, he, hb⟩

/-- When PeerSendShutdown comes everything has been handed out. -/
theorem Delivery.peerSendShutdown_step [LawfulRangeSet R] (h : Delivery tr s)
    (hrun : (streamSystem w DeliveryContract).Run tr s)
    (hok : DeliveryContract tr s (.event .peerSendShutdown)) :
    Delivery ((streamSystem w DeliveryContract).take s (.event .peerSendShutdown) :: tr)
      (s.step w (.event .peerSendShutdown)).state := by
  have hun : unreadBytes s.inner.recvBuffers = [] :=
    unreadBytes_eq_nil fun b hb => (accounting_run hrun).content_nil
      (tiles_run (fun hok => hok.contiguous) hrun) (hok.completed trivial)
      (List.mem_append_right _ hb)
  refine h.ended (e := (streamSystem w DeliveryContract).take s (.event .peerSendShutdown)) rfl rfl
    rfl id False.elim (fun hs => by cases hs) ?_
  rcases h.flow with hf | ⟨herr, -⟩
  · refine .inr ⟨.inr ⟨_, List.mem_cons_self, trivial⟩, ?_⟩
    rw [receivedBytes_cons, handedOut_cons, hf, hun, List.append_nil]
    rfl
  · exact .inl herr

/-- ShutdownComplete ends the receive side with an error, or after everything has been
handed out. -/
theorem Delivery.shutdownComplete_step (h : Delivery tr s) {cs ac ba cr : Bool} {ec : UInt64}
    {st : Status} (hok : DeliveryContract tr s (.event (.shutdownComplete cs ac ba cr ec st))) :
    Delivery ((streamSystem w DeliveryContract).take s
      (.event (.shutdownComplete cs ac ba cr ec st)) :: tr)
      (s.step w (.event (.shutdownComplete cs ac ba cr ec st))).state := by
  by_cases hs : s.inner.state = .shutdownComplete
  · have hr := Stream.handleEventShutdownComplete_again (w := w) hs cs ac ba cr ec st
    have hinner : (s.step w (.event (.shutdownComplete cs ac ba cr ec st))).state.inner = s.inner :=
      congrArg (fun r => r.state) hr
    refine h.quiet (e := (streamSystem w DeliveryContract).take s _) rfl rfl
      (congrArg (fun y => y.recvBuffers) hinner) ?_ (.inl (congrArg (fun y => y.recvState) hinner))
      id id
    exact fun herr => hinner ▸ herr
  · obtain ⟨map, cursor, hy⟩ := Stream.handleEventShutdownComplete_frame (w := w) hs cs ac ba cr ec st
    have hinner : (s.step w (.event (.shutdownComplete cs ac ba cr ec st))).state.inner = _ := hy
    have herr (hor : cs = true ∨ s.inner.ErrorRecorded) :
        (s.step w (.event (.shutdownComplete cs ac ba cr ec st))).state.inner.ErrorRecorded := by
      rw [hinner]
      rcases hor with hcs | herr | herr
      · exact .inl (Stream.shutdownConnError_isSome.mpr (.inl hcs))
      · exact .inl (Stream.shutdownConnError_isSome.mpr (.inr herr))
      · exact .inr herr
    refine h.discard (e := (streamSystem w DeliveryContract).take s _) rfl rfl
      (congrArg (fun y => y.recvBuffers) hinner) (fun he => herr (.inr he)) id trivial ?_ ?_
    · intro hst
      have := (congrArg (fun y => y.recvState) hinner).symm.trans hst
      cases this
    · cases cs with
      | true => exact .inl (herr (.inl rfl))
      | false =>
        obtain ⟨e, he, hp | hb⟩ := hok.caused _ _ _ _ _ rfl
        · exact (h.peerSendShutdown ⟨e, he, hp⟩).imp (fun he => herr (.inr he))
            fun hd => hd.cons rfl rfl
        · exact .inl (herr (.inr (h.breaksOff ⟨e, he, hb⟩)))

theorem Delivery.call (h : Delivery tr s) (hacc : Accounting w tr s) {op : StreamOp ω}
    (hop : ¬ (StreamLabel.call op).AbortsReading) :
    Delivery ((streamSystem w DeliveryContract).take s (.call op) :: tr)
      (s.step w (.call op)).state := by
  have hquiet {y : StreamInner R ω} (hy : (s.call w op).state.inner = y)
      (hhand : handedBytes (s.call w op).result = [])
      (hq : y.recvBuffers = s.inner.recvBuffers)
      (herr : s.inner.ErrorRecorded → y.ErrorRecorded)
      (hstate : y.recvState = s.inner.recvState ∨ y.recvState = .start ∨
        y.recvState = .startComplete) :
      Delivery ((streamSystem w DeliveryContract).take s (.call op) :: tr)
        (s.step w (.call op)).state := by
    subst hy
    exact h.quiet (e := (streamSystem w DeliveryContract).take s (.call op)) rfl hhand hq herr
      hstate id id
  rcases op.group with hr | hw | hh | ⟨cx, failedOnBlock, native, rfl⟩ |
    ⟨cx, errorCode, native, rfl⟩ | ⟨errorCode, native, rfl⟩
  · obtain ⟨popped, -, he⟩ := StreamSys.call_read (w := w) (s := s) hr
    exact h.read (e := (streamSystem w DeliveryContract).take s (.call op)) hacc rfl id id he
  · obtain ⟨⟨⟨_, _, _, _, hy⟩, -, -⟩, -⟩ := StreamSys.call_write (w := w) (s := s) hw
    refine hquiet hy ?_ rfl id (.inl rfl)
    cases op with
    | pollWrite | pollWriteChunk | pollWriteChunks | pollFinishWrite | pollAbortWrite
    | abortWrite => rfl
    | _ => exact hw.elim
  · obtain ⟨map, cursor, hy⟩ := StreamSys.call_held (w := w) (s := s) hh
    refine hquiet hy ?_ rfl id (.inl rfl)
    cases op with
    | dropRecvBuffer i =>
      simp only [StreamSys.call]
      split <;> rfl
    | advance i count =>
      simp only [StreamSys.call]
      split
      · split <;> rfl
      · rfl
    | getBytesUptoSize i size =>
      simp only [StreamSys.call]
      split
      · split <;> rfl
      · rfl
    | _ => exact hh.elim
  · have hst := Stream.startSide_pollStart s.inner cx failedOnBlock native
    exact hquiet rfl rfl hst.recvBuffers hst.errorRecorded hst.recvState
  · exact absurd trivial hop
  · exact absurd trivial hop

theorem Delivery.event [LawfulRangeSet R] (h : Delivery tr s)
    (hrun : (streamSystem w DeliveryContract).Run tr s)
    {ev : MsquicStreamEvent} (hok : DeliveryContract tr s (.event ev)) :
    Delivery ((streamSystem w DeliveryContract).take s (.event ev) :: tr)
      (s.step w (.event ev)).state := by
  have hquiet {y : StreamInner R ω} (hy : (s.dispatchEvent w ev).state.inner = y)
      (hrec : (.event ev : StreamLabel ω).receive? = none)
      (hhand : handedBytes (s.dispatchEvent w ev).result = [])
      (hq : y.recvBuffers = s.inner.recvBuffers)
      (herr : s.inner.ErrorRecorded → y.ErrorRecorded)
      (hstate : y.recvState = s.inner.recvState ∨ y.recvState = .start ∨
        y.recvState = .startComplete)
      (hpss : ¬ (.event ev : StreamLabel ω).IsPeerSendShutdown)
      (hbrk : ¬ (.event ev : StreamLabel ω).BreaksOff) :
      Delivery ((streamSystem w DeliveryContract).take s (.event ev) :: tr)
        (s.step w (.event ev)).state := by
    subst hy
    exact h.quiet (e := (streamSystem w DeliveryContract).take s (.event ev)) hrec hhand hq herr
      hstate hpss hbrk
  cases ev with
  | receive => exact h.receive (accounting_run hrun) hok
  | peerSendShutdown => exact h.peerSendShutdown_step hrun hok
  | shutdownComplete => exact h.shutdownComplete_step hok
  | peerSendAborted errorCode =>
    exact h.ended (e := (streamSystem w DeliveryContract).take s _) rfl rfl rfl
      (fun _ => .inr (.inr rfl)) (fun _ => .inr (.inr rfl)) (fun hs => by cases hs)
      (.inl (.inr (.inr rfl)))
  | cancelOnLoss errorCode =>
    exact h.ended (e := (streamSystem w DeliveryContract).take s _) rfl rfl rfl
      (fun _ => .inr (.inl rfl)) (fun _ => .inr (.inl rfl)) id (.inl (.inr (.inl rfl)))
  | startComplete status id peerAccepted =>
    have hst := Stream.startSide_startComplete s.inner status id peerAccepted
    exact hquiet rfl rfl rfl hst.recvBuffers hst.errorRecorded hst.recvState False.elim False.elim
  | peerAccepted =>
    have hst := Stream.startSide_peerAccepted s.inner
    exact hquiet rfl rfl rfl hst.recvBuffers hst.errorRecorded hst.recvState False.elim False.elim
  | sendComplete canceled clientContext =>
    cases hf : WriteBuffer.fromRaw s.native clientContext with
    | none =>
      exact hquiet (y := s.inner) (by simp only [StreamSys.dispatchEvent, hf]) rfl
        (by simp only [StreamSys.dispatchEvent, hf]; rfl) rfl id (.inl rfl) False.elim False.elim
    | some p =>
      exact hquiet (y := (Stream.handleEventSendComplete s.inner p.1).state)
        (by simp only [StreamSys.dispatchEvent, hf]; rfl) rfl
        (by simp only [StreamSys.dispatchEvent, hf]; rfl) rfl id (.inl rfl) False.elim False.elim
  | _ => exact hquiet rfl rfl rfl rfl id (.inl rfl) False.elim False.elim

theorem Delivery.step [LawfulRangeSet R] {l : StreamLabel ω} (h : Delivery tr s)
    (hrun : (streamSystem w DeliveryContract).Run tr s) (hok : DeliveryContract tr s l) :
    Delivery ((streamSystem w DeliveryContract).take s l :: tr) (s.step w l).state := by
  cases l with
  | call op => exact h.call (accounting_run hrun) hok.noAbort
  | event ev => exact h.event hrun hok

theorem delivery_run [LawfulRangeSet R] (h : (streamSystem w DeliveryContract).Run tr s) :
    Delivery tr s :=
  h.invariant (I := Delivery) (fun _ hi => .start hi) fun _ _ _ hr hok ih => ih.step hr hok

end

/-! ## The end of the stream -/

/-- A read answers with 0 bytes, or with no chunk. -/
def StreamRes.EndOfStream : StreamRes → Prop
  | .read (.ready (.ok data)) => data = []
  | .readChunk (.ready (.ok chunk)) => chunk = none
  | _ => False

theorem StreamRes.endOfStream_readChunk {p : Poll (Except ReadError (Option StreamRecvBuffer))}
    (h : EndOfStream (.readChunk p)) : p = .ready (.ok none) := by
  rcases p with (_ | chunk) | _
  · exact h.elim
  · exact congrArg (fun chunk => Poll.ready (Except.ok chunk)) h
  · exact h.elim

theorem StreamRes.endOfStream_read {p : ReadPoll (Option Bytes)}
    (h : EndOfStream (.read (p.getD []).poll)) : ∃ v, p.poll = .ready (.ok v) ∧ v.getD [] = [] := by
  rcases p with ⟨(_ | v) | _, _⟩
  · exact h.elim
  · exact ⟨v, rfl, h⟩
  · exact h.elim

theorem StreamRes.EndOfStream.handedBytes {r : StreamRes} (h : r.EndOfStream) :
    handedBytes r = [] := by
  cases r with
  | read p =>
    rcases p with (_ | data) | _
    · exact h.elim
    · exact h
    · exact h.elim
  | readChunk p =>
    rw [endOfStream_readChunk h]
    rfl
  | _ => exact h.elim

theorem AllDelivered.before {tr : List (StreamStep R ω)} {e : StreamStep R ω}
    (h : AllDelivered (e :: tr)) (hrec : e.label.receive? = none)
    (hpss : ¬ e.label.IsPeerSendShutdown) (hhand : handedBytes e.out.result = []) :
    AllDelivered tr := by
  obtain ⟨hfin, hall⟩ := h
  rw [receivedBytes_cons, handedOut_cons, hrec, hhand, List.append_nil] at hall
  refine ⟨?_, (List.append_nil _).symm.trans hall⟩
  rcases hfin with ⟨r, hr, hf⟩ | ⟨e', he, hp⟩
  · rw [receives_cons, hrec] at hr
    exact .inl ⟨r, hr, hf⟩
  · rcases List.mem_cons.mp he with rfl | he
    · exact absurd hp hpss
    · exact .inr ⟨e', he, hp⟩

theorem deliveryContract_call {tr : List (StreamStep R ω)} {s : StreamSys R ω} {op : StreamOp ω}
    (h : ¬ (StreamLabel.call op).AbortsReading) : DeliveryContract tr s (.call op) :=
  ⟨nofun, nofun, nofun, nofun, nofun, nofun, nofun, h⟩

theorem deliveryContract_first {s : StreamSys R ω} {total : UInt64} {buffers : List QuicBuffer}
    {flags : ReceiveFlags} (hb : ∀ x ∈ buffers, x.bytes ≠ []) :
    DeliveryContract [] s (.event (.receive 0 total buffers flags)) where
  contiguous _ hr := Option.some.inj hr ▸ rfl
  segments _ hr := Option.some.inj hr ▸ hb
  last _ _ := List.forall_mem_nil _
  final _ _ h := by
    obtain ⟨_, he, -⟩ := h
    cases he
  stops _ _ := List.forall_mem_nil _
  completed := False.elim
  caused _ _ _ _ _ h := by cases h
  noAbort := id

theorem StreamOp.IsNonEmptyRead.isRead {op : StreamOp ω} (h : op.IsNonEmptyRead) : op.IsRead := by
  cases op <;> trivial

theorem StreamOp.IsRead.not_abortsReading {op : StreamOp ω} (h : op.IsRead) :
    ¬ (StreamLabel.call op).AbortsReading := by
  cases op <;> first | exact id | exact h.elim

/-- Before the FIN buffer is popped a read into a non-empty destination answers with at least
one byte. -/
theorem readLoop_ne_nil {n : Nat} {got : ReadLoop n → Bool} (hn : 0 < n)
    (hgot : ∀ s, got s = true → s.copied = true ∨ s.read ≠ []) {q : List StreamRecvBuffer}
    (hq : ∀ b ∈ q, b.WellFormed) (v : Bytes)
    (hv : ((readLoop n got).run (.start n q)).status = .readable v ∨
      ((readLoop n got).run (.start n q)).status = .blocked (some v)) : v ≠ [] := by
  refine (readLoop n got).run_rule (I := ReadLoop.Inv q)
    (Q := fun r => r.status = .readable v ∨ r.status = .blocked (some v) → v ≠ [])
    (fun _ _ h hb => h.body hb) (fun s r h hb hv => ?_) ReadLoop.inv_start hv
  replace hb : ReadLoop.body got s = .inr r := hb
  unfold ReadLoop.body at hb
  split at hb
  · next hlen =>
    obtain rfl := Sum.inr.inj hb
    rcases hv with hv | hv
    · cases hv
      exact List.ne_nil_of_length_pos (by omega)
    · cases hv
  · split at hb
    · split at hb <;> cases hb
    · obtain rfl := Sum.inr.inj hb
      cases hf : s.fin <;> cases hg : got s <;> simp [ReadStatus.ofPair, hf, hg] at hv
      subst hv
      exact (hgot s hg).elim (h.wellFormed hq).2 id

section

variable [WillWake ω]

/-- **When a read reports the end**: it has popped the FIN buffer, or it had been popped
before, or the receive side has ended without an error. -/
theorem Stream.pollReadGeneric_ended {α : Type} {x : StreamInner R ω} {cx : ω}
    {readFn : List StreamRecvBuffer → ReadFn α} (IsEnd : Option α → Prop)
    (hq : ∀ v, (readFn x.recvBuffers).status = .readable v ∨
      (readFn x.recvBuffers).status = .blocked (some v) → ¬ IsEnd (some v)) {v : Option α}
    (hp : (pollReadGeneric x cx readFn).result.poll = .ready (.ok v)) (hv : IsEnd v) :
    (pollReadGeneric x cx readFn).state.recvState = .shutdown ∨
      (x.recvState = .shutdownComplete ∧ ¬ x.ErrorRecorded) := by
  unfold pollReadGeneric at hp ⊢
  split at hp
  · cases hp
  · cases hp
  next hs =>
    left
    simp only at hp ⊢
    split at hp
    · next hst =>
      cases hp
      exact absurd hv (hq _ (.inl hst))
    · next hst =>
      cases hp
      exact absurd hv (hq _ (.inr hst))
    · rfl
    · cases hp
  next hs => exact .inl hs
  next hs =>
    refine .inr ⟨hs, ?_⟩
    have hr : readShutdownComplete x = .ok v := by
      injection hp
    unfold readShutdownComplete at hr
    split at hr
    · cases hr
    · next hconn =>
      split at hr
      · cases hr
      · next hloss =>
        split at hr
        · cases hr
        · next hreset =>
          simp [StreamInner.ErrorRecorded, hconn, hloss, hreset]

variable [RangeSet R] [StatusApi] {w : Nat} {s : StreamSys R ω}

theorem StreamSys.call_ended {op : StreamOp ω} (hop : op.IsNonEmptyRead)
    (hq : ∀ b ∈ s.inner.recvBuffers, b.WellFormed) (h : (s.call w op).result.EndOfStream) :
    (s.call w op).state.inner.recvState = .shutdown ∨
      (s.inner.recvState = .shutdownComplete ∧ ¬ s.inner.ErrorRecorded) := by
  cases op with
  | pollRead cx len =>
    obtain ⟨v, hp, hv⟩ := StreamRes.endOfStream_read h
    exact Stream.pollReadGeneric_ended (fun v => v.getD [] = [])
      (readLoop_ne_nil hop (fun s hs => .inr (List.ne_nil_of_length_pos (of_decide_eq_true hs))) hq)
      hp hv
  | pollReadBuf cx remaining =>
    have hne : remaining ≠ 0 := Nat.ne_of_gt hop
    simp only [call, Stream.pollReadBuf, if_neg hne] at h ⊢
    obtain ⟨v, hp, hv⟩ := StreamRes.endOfStream_read h
    exact Stream.pollReadGeneric_ended (fun v => v.getD [] = [])
      (readLoop_ne_nil hop (fun s hs => .inl hs) hq) hp hv
  | pollReadChunk cx =>
    exact Stream.pollReadGeneric_ended (fun v => v = none) (fun _ _ h => by cases h)
      (StreamRes.endOfStream_readChunk h) rfl
  | _ => exact hop.elim

variable [LawfulRangeSet R] {tr : List (StreamStep R ω)}

/-- **Reads deliver in order, exactly once, and report the end when everything has been
delivered.** -/
theorem delivery_in_order (h : (streamSystem w DeliveryContract).Run tr s) :
    handedOut tr <+: receivedBytes tr ∧
      (∀ (n : Nat) (got : ReadLoop n → Bool) (q : List StreamRecvBuffer), ∃ fuel,
        iter (ReadLoop.body got) fuel (.start n q) = some ((readLoop n got).run (.start n q))) ∧
      ∀ op : StreamOp ω, op.IsNonEmptyRead → (s.call w op).result.EndOfStream →
        FinReceived tr ∧ receivedBytes tr = handedOut tr := by
  have hd := delivery_run h
  refine ⟨?_, fun n got q => ⟨_, (readLoop n got).iter_eq_run (Nat.lt_succ_self _)⟩, ?_⟩
  · rcases hd.flow with hf | ⟨-, -, -, hpre⟩
    · exact ⟨_, hf.symm⟩
    · exact hpre
  intro op hop hend
  rcases StreamSys.call_ended hop hd.wellFormed hend with hs | ⟨hs, herr⟩
  · have hd' := hd.step h (deliveryContract_call hop.isRead.not_abortsReading)
    exact (hd'.shutdown hs).before rfl id hend.handedBytes
  · exact (hd.shutdownComplete hs).resolve_left herr

end

/-- Two segments are read by two paths; the next read reports the end. -/
theorem delivery_in_order_two_segments :
    ∃ (tr : List (StreamStep Coalesced Nat)) (s : StreamSys Coalesced Nat),
      (streamSystem 64 DeliveryContract).Run tr s ∧
      tr.map Step.label =
        [.call (.pollReadChunk 7), .call (.pollRead 7 1),
          .event (.receive 0 3 [.ofSlice [1, 2], .ofSlice [3]] { fin := true })] ∧
      (s.call 64 (.pollRead 7 4)).result = .read (.ready (.ok [])) ∧
      FinReceived tr ∧ receivedBytes tr = handedOut tr := by
  have h0 := System.Run.start (S := streamSystem (R := Coalesced) (ω := Nat) 64 DeliveryContract)
    (.fromRaw .bidirectional)
  have h1 := h0.step (.event (.receive 0 3 [.ofSlice [1, 2], .ofSlice [3]] { fin := true }))
    (by
      refine ⟨fun _ h => Option.some.inj h ▸ rfl, fun _ h => Option.some.inj h ▸ ?_, ?_, ?_, ?_,
        nofun, nofun, id⟩
      all_goals simp [receives, QuicBuffer.ofSlice_bytes])
  have h2 := (h1.step (.call (.pollRead 7 1)) (by exact deliveryContract_call id)).step
    (.call (.pollReadChunk 7)) (by exact deliveryContract_call id)
  exact ⟨_, _, h2, rfl, rfl, (delivery_in_order h2).2.2 (.pollRead 7 4) (Nat.succ_pos 3) rfl⟩

end MsquicAsync
