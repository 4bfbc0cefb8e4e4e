import MsquicAsync.Stream.ReadEffect

/-!
# poll_read and poll_read_buf

The two reads run one loop over the queue and stop in one state. There they
differ in what counts as progress: `poll_read` asks whether it has copied a byte
(`ReadLoop.gotBytes`), `poll_read_buf` whether it has copied a slice
(`ReadLoop.copied`). They disagree where all slices were empty and no FIN stands
at the end of the queue.
-/

namespace MsquicAsync

open Loops

variable {R ω : Type}

namespace ReadLoop

variable {n : Nat} {q : List StreamRecvBuffer} {s s' : ReadLoop n}

/-- The `fin` of the last buffer. -/
def lastFin (q : List StreamRecvBuffer) : Bool := (q.getLast?.map StreamRecvBuffer.fin).getD false

/-- What the loop knows of the queue `q` it started with. -/
structure Progress (q : List StreamRecvBuffer) (s : ReadLoop n) : Prop extends Inv q s where
  last : s.fin = lastFin s.readCompleteBuffers
  /-- No slice so far: the popped buffers had no segment left. -/
  untouched : s.copied = false →
    ∃ popped, q = popped ++ s.recvBuffers ∧ ∀ b ∈ popped, b.segmentsLeft = 0
  touched : s.copied = true → ∃ b ∈ q, b.segmentsLeft ≠ 0

theorem progress_start : Progress q (start n q) where
  toInv := inv_start
  last := rfl
  untouched _ := ⟨[], rfl, nofun⟩
  touched := nofun

theorem segmentsLeft_of_none {b : StreamRecvBuffer} {size : Nat}
    (h : b.getBytesUptoSize size = none) : b.segmentsLeft = 0 := by
  unfold StreamRecvBuffer.getBytesUptoSize at h
  split at h
  · next hnone => exact Nat.sub_eq_zero_of_le (List.getElem?_eq_none_iff.mp hnone)
  · cases h

theorem segmentsLeft_of_some {b b' : StreamRecvBuffer} {size : Nat} {slice : Bytes}
    (h : b.getBytesUptoSize size = some (slice, b')) : b.segmentsLeft ≠ 0 := by
  unfold StreamRecvBuffer.getBytesUptoSize at h
  split at h
  · cases h
  · next hsome =>
    obtain ⟨hlt, -⟩ := List.getElem?_eq_some_iff.mp hsome
    unfold StreamRecvBuffer.segmentsLeft
    omega

/-- A continuing iteration takes a slice of the front buffer or pops it. -/
inductive Continues (s s' : ReadLoop n) (b : StreamRecvBuffer) (rest : List StreamRecvBuffer) :
    Prop where
  | slice {slice : Bytes} {b' : StreamRecvBuffer}
      (hg : b.getBytesUptoSize (n - s.read.length) = some (slice, b'))
      (hs : s' = { s with
        recvBuffers := b' :: rest
        read := s.read ++ slice
        copied := true
        read_le := length_append_le hg })
  | pop (hg : b.getBytesUptoSize (n - s.read.length) = none)
      (hs : s' = { s with
        recvBuffers := rest
        fin := b.fin
        readCompleteBuffers := s.readCompleteBuffers ++ [b.setStream] })

theorem continues_of_body {got : ReadLoop n → Bool} (hb : body got s = .inl s') :
    ∃ b rest, s.recvBuffers = b :: rest ∧ Continues s s' b rest := by
  unfold ReadLoop.body at hb
  split at hb
  · cases hb
  split at hb
  next b rest hq =>
    refine ⟨b, rest, hq, ?_⟩
    split at hb
    · next hg => exact .slice hg (Sum.inl.inj hb).symm
    · next hg => exact .pop hg (Sum.inl.inj hb).symm
  · cases hb

theorem Progress.body {got : ReadLoop n → Bool} (h : Progress q s) (hb : body got s = .inl s') :
    Progress q s' := by
  have hinv := h.toInv.body hb
  obtain ⟨b, rest, hq, hcont⟩ := continues_of_body hb
  cases hcont with
  | slice hg hs =>
    subst hs
    refine { toInv := hinv, last := h.last, untouched := (fun hc => by cases hc), touched := ?_ }
    intro _
    cases hc : s.copied with
    | true => exact h.touched hc
    | false =>
      -- the first slice comes from a buffer of `q` itself
      obtain ⟨popped, hpop, -⟩ := h.untouched hc
      refine ⟨b, ?_, segmentsLeft_of_some hg⟩
      rw [hpop, hq]
      exact List.mem_append_right _ List.mem_cons_self
  | pop hg hs =>
    subst hs
    refine { toInv := hinv, last := ?_, untouched := fun hc => ?_, touched := h.touched }
    · simp [lastFin]
    · obtain ⟨popped, hpop, hzero⟩ := h.untouched hc
      refine ⟨popped ++ [b], by rw [hpop, hq, List.append_assoc]; rfl, ?_⟩
      rw [List.forall_mem_append]
      exact ⟨hzero, List.forall_mem_singleton.mpr (segmentsLeft_of_none hg)⟩

theorem body_continues {got got' : ReadLoop n → Bool} (hb : body got s = .inl s') :
    body got' s = .inl s' := by
  obtain ⟨recvBuffers, completed, fin, read, copied, hle⟩ := s
  cases recvBuffers with
  | cons b rest => exact hb
  | nil =>
    unfold body at hb
    split at hb <;> cases hb

/-- How the loop ends: the destination is full, or the queue is empty. -/
theorem body_done {got : ReadLoop n → Bool} {r : ReadFn Bytes} (hb : body got s = .inr r) :
    (s.read.length = n ∧ ∀ got', body got' s = .inr ⟨.readable s.read, s.recvBuffers,
        s.readCompleteBuffers⟩) ∨
      (s.read.length ≠ n ∧ s.recvBuffers = [] ∧ ∀ got', body got' s = .inr
        ⟨.ofPair (if got' s then some s.read else none, s.fin), [], s.readCompleteBuffers⟩) := by
  by_cases hn : s.read.length = n
  · exact .inl ⟨hn, fun _ => if_pos hn⟩
  · right
    obtain ⟨recvBuffers, completed, fin, read, copied, hle⟩ := s
    cases recvBuffers with
    | nil => exact ⟨hn, rfl, fun _ => if_neg hn⟩
    | cons b rest =>
      unfold body at hb
      rw [if_neg hn] at hb
      simp only at hb
      split at hb <;> cases hb

theorem lastFin_of_rewound {p q : List StreamRecvBuffer}
    (h : q.map StreamRecvBuffer.rewound = p.map StreamRecvBuffer.rewound) :
    lastFin q = lastFin p := by
  have hfin (l : List StreamRecvBuffer) :
      lastFin l = ((l.map StreamRecvBuffer.rewound).getLast?.map StreamRecvBuffer.fin).getD false := by
    rw [List.getLast?_map, Option.map_map]
    rfl
  rw [hfin, hfin, h]

end ReadLoop

open ReadLoop

/-- There are segments to be read, all of them empty. -/
def EmptySlices (q : List StreamRecvBuffer) : Prop :=
  unreadBytes q = [] ∧ ∃ b ∈ q, b.segmentsLeft ≠ 0

theorem readLoops_last (n : Nat) (q : List StreamRecvBuffer) :
    ∃ t : ReadLoop n, Progress q t ∧
      body gotBytes t = .inr ((readLoop n gotBytes).run (.start n q)) ∧
      body copied t = .inr ((readLoop n copied).run (.start n q)) := by
  obtain ⟨t, ht, hlast, hrun⟩ := (readLoop n gotBytes).exists_last (readLoop n copied)
    (I := Progress q) (fun s s' hs hb => ⟨hs.body hb, body_continues hb⟩) progress_start
  refine ⟨t, ht, hlast, ?_⟩
  have hdone : ∃ r, body copied t = .inr r := by
    rcases body_done hlast with ⟨-, h⟩ | ⟨-, -, h⟩ <;> exact ⟨_, h copied⟩
  obtain ⟨r, hr⟩ := hdone
  rw [hrun, (readLoop n copied).run_eq, show (readLoop n copied).body t = .inr r from hr, hr]

section

variable {n : Nat} {q : List StreamRecvBuffer}

/-- Unless all the slices are empty the loops return the same, and not an empty value. -/
theorem readLoops_agree (hn : 0 < n) (h : ¬ EmptySlices q) :
    (readLoop n copied).run (.start n q) = (readLoop n gotBytes).run (.start n q) ∧
      ((readLoop n gotBytes).run (.start n q)).status.value ≠ some [] := by
  obtain ⟨t, ht, hgot, hcop⟩ := readLoops_last n q
  rcases body_done hgot with ⟨hfull, hall⟩ | ⟨-, hq, hall⟩
  · rw [hall] at hgot hcop
    rw [← Sum.inr.inj hgot, ← Sum.inr.inj hcop]
    refine ⟨rfl, fun hv => ?_⟩
    have hnil : t.read = [] := Option.some.inj hv
    rw [hnil, List.length_nil] at hfull
    omega
  · rw [hall] at hgot hcop
    rw [← Sum.inr.inj hgot, ← Sum.inr.inj hcop]
    have hunread := ht.unread
    rw [hq, unreadBytes_nil, List.append_nil] at hunread
    by_cases hread : t.read = []
    · -- a slice would have been empty
      have hcopied : t.copied = false := by
        by_contra hc
        exact h ⟨hunread.trans hread, ht.touched (by simpa using hc)⟩
      have hg : t.gotBytes = false := by rw [gotBytes, hread]; rfl
      rw [hcopied, hg]
      refine ⟨rfl, ?_⟩
      cases t.fin <;> exact fun hv => by cases hv
    · have hcopied : t.copied = true := by
        by_contra hc
        exact hread (ht.copied (by simpa using hc))
      have hg : t.gotBytes = true := decide_eq_true (List.length_pos_iff.mpr hread)
      rw [hcopied, hg]
      refine ⟨rfl, fun hv => hread ?_⟩
      cases hf : t.fin <;> rw [hf] at hv <;> exact Option.some.inj hv

/-- Where all the slices are empty, `poll_read` has read nothing and `poll_read_buf` an empty
value. -/
theorem readLoops_differ (hn : 0 < n) (h : EmptySlices q) :
    ∃ completed,
      (readLoop n gotBytes).run (.start n q) = ⟨.ofPair (none, lastFin q), [], completed⟩ ∧
      (readLoop n copied).run (.start n q) = ⟨.ofPair (some [], lastFin q), [], completed⟩ := by
  obtain ⟨hempty, b, hb, hleft⟩ := h
  obtain ⟨t, ht, hgot, hcop⟩ := readLoops_last n q
  have hread : t.read = [] := (List.append_eq_nil_iff.mp (ht.unread.symm.trans hempty)).1
  rcases body_done hgot with ⟨hfull, -⟩ | ⟨-, hq, hall⟩
  · rw [hread, List.length_nil] at hfull
    omega
  · have hcopied : t.copied = true := by
      by_contra hc
      obtain ⟨popped, hpop, hzero⟩ := ht.untouched (by simpa using hc)
      rw [hq, List.append_nil] at hpop
      exact hleft (hzero b (hpop ▸ hb))
    have hg : t.gotBytes = false := by rw [gotBytes, hread]; rfl
    have hfin : lastFin q = t.fin := by
      have hrew := ht.rewound
      rw [hq, List.append_nil] at hrew
      rw [lastFin_of_rewound hrew, ht.last]
    rw [hall] at hgot hcop
    rw [← Sum.inr.inj hgot, ← Sum.inr.inj hcop, hcopied, hg, hread, hfin]
    exact ⟨_, rfl, rfl⟩

theorem readLoop_value_ne_nil (hn : 0 < n) (q : List StreamRecvBuffer) :
    ((readLoop n gotBytes).run (.start n q)).status.value ≠ some [] := by
  by_cases h : EmptySlices q
  · obtain ⟨_, hgot, -⟩ := readLoops_differ hn h
    rw [hgot]
    cases lastFin q <;> exact nofun
  · exact (readLoops_agree hn h).2

end

/-! ## The polls -/

namespace Stream

variable [WillWake ω] {x : StreamInner R ω} {cx : ω} {n : Nat}

/-- The two reads give one answer, leave one state and complete the same buffers, and are ready
with no bytes at the end of the stream only. -/
structure ReadsAgree (x : StreamInner R ω) (cx : ω) (n : Nat) : Prop where
  same : pollReadBuf x cx n = pollRead x cx n
  pollRead_end : (pollRead x cx n).result.poll = .ready (.ok []) →
    (pollRead x cx n).state.recvState = .shutdown ∨
      (pollRead x cx n).state.recvState = .shutdownComplete
  pollReadBuf_end : (pollReadBuf x cx n).result.poll = .ready (.ok []) →
    (pollReadBuf x cx n).state.recvState = .shutdown ∨
      (pollReadBuf x cx n).state.recvState = .shutdownComplete

/-- The queue shows slices to a reader, all of them empty, and does not end the stream. -/
def EmptySlicesOnly (x : StreamInner R ω) : Prop :=
  x.recvState = .startComplete ∧ EmptySlices x.recvBuffers ∧ lastFin x.recvBuffers = false

theorem pollReadGeneric_congr {f g : List StreamRecvBuffer → ReadFn Bytes}
    (h : x.recvState = .startComplete → f x.recvBuffers = g x.recvBuffers) :
    pollReadGeneric x cx f = pollReadGeneric x cx g := by
  unfold pollReadGeneric
  cases hs : x.recvState with
  | startComplete => rw [h hs]
  | closed => rfl
  | start => rfl
  | shutdown => rfl
  | shutdownComplete => rfl

theorem pollReadBuf_eq (hn : 0 < n) : pollReadBuf x cx n = (pollReadGeneric x cx fun q =>
    (readLoop n copied).run (.start n q)).lift id fun r => r.getD [] := if_neg (by omega)

theorem EmptySlicesOnly.differ (h : EmptySlicesOnly x) (cx : ω) (hn : 0 < n) :
    (pollRead x cx n).result.poll = .pending ∧
      (pollReadBuf x cx n).result.poll = .ready (.ok []) ∧
      (pollReadBuf x cx n).state.recvState = .startComplete := by
  obtain ⟨hs, hempty, hfin⟩ := h
  obtain ⟨_, hgot, hcop⟩ := readLoops_differ hn hempty
  rw [hfin] at hgot hcop
  refine ⟨?_, ?_, ?_⟩
  · simp only [pollRead, pollReadGeneric, hs, hgot, ReadStatus.ofPair, Ran.lift_result,
      ReadPoll.getD, Poll.map_pending]
  · rw [pollReadBuf_eq hn]
    simp only [pollReadGeneric, hs, hcop, ReadStatus.ofPair, Ran.lift_result, ReadPoll.getD,
      Poll.map_ready]
    rfl
  · rw [pollReadBuf_eq hn]
    simp only [pollReadGeneric, hs, hcop, ReadStatus.ofPair, Ran.lift_state, id]

/-- Everywhere else the two are one function: a FIN behind empty slices makes both ready. -/
theorem pollReadBuf_eq_pollRead (hn : 0 < n) (h : ¬ EmptySlicesOnly x) :
    pollReadBuf x cx n = pollRead x cx n := by
  rw [pollReadBuf_eq hn]
  by_cases hempty : x.recvState = .startComplete ∧ EmptySlices x.recvBuffers
  · obtain ⟨hs, hempty⟩ := hempty
    have hfin : lastFin x.recvBuffers = true := by
      by_contra hf
      exact h ⟨hs, hempty, by simpa using hf⟩
    obtain ⟨_, hgot, hcop⟩ := readLoops_differ hn hempty
    rw [hfin] at hgot hcop
    simp only [pollRead, pollReadGeneric, hs, hgot, hcop, ReadStatus.ofPair]
    rfl
  · have hgen : pollReadGeneric x cx (fun q => (readLoop n copied).run (.start n q)) =
        pollReadGeneric x cx (fun q => (readLoop n gotBytes).run (.start n q)) :=
      pollReadGeneric_congr fun hs => (readLoops_agree hn fun he => hempty ⟨hs, he⟩).1
    rw [hgen, pollRead]

theorem eq_nil_of_getD {v : Bytes} {completed : List StreamRecvBuffer}
    (h : (ReadPoll.getD ⟨.ready (.ok (some v)), completed⟩ []).poll = .ready (.ok [])) : v = [] := by
  simpa [ReadPoll.getD, Except.map] using h

theorem pollRead_end (hn : 0 < n) (hp : (pollRead x cx n).result.poll = .ready (.ok [])) :
    (pollRead x cx n).state.recvState = .shutdown ∨
      (pollRead x cx n).state.recvState = .shutdownComplete := by
  have hvalue := readLoop_value_ne_nil hn x.recvBuffers
  unfold pollRead pollReadGeneric at hp ⊢
  cases hs : x.recvState with
  | shutdown => exact .inl hs
  | shutdownComplete => exact .inr hs
  | closed =>
    rw [hs] at hp
    cases hp
  | start =>
    rw [hs] at hp
    cases hp
  | startComplete =>
    rw [hs] at hp
    simp only at hp ⊢
    split at hp
    · next v hst =>
      obtain rfl := eq_nil_of_getD hp
      exact absurd (by rw [hst]; rfl) hvalue
    · next v hst =>
      obtain rfl := eq_nil_of_getD hp
      exact absurd (by rw [hst]; rfl) hvalue
    · exact .inl rfl
    · cases hp

/-- **poll_read and poll_read_buf agree, except on a queue of empty slices without a FIN**: there
poll_read is pending and poll_read_buf reports an end of stream. -/
theorem reads_agree_iff (x : StreamInner R ω) (cx : ω) {n : Nat} (hn : 1 ≤ n) :
    ReadsAgree x cx n ↔ ¬ EmptySlicesOnly x := by
  constructor
  · intro h hempty
    obtain ⟨hpend, hready, -⟩ := hempty.differ cx hn
    rw [h.same, hpend] at hready
    cases hready
  · intro h
    have hsame : pollReadBuf x cx n = pollRead x cx n := pollReadBuf_eq_pollRead hn h
    exact ⟨hsame, pollRead_end hn, hsame ▸ pollRead_end hn⟩

/-- A queue with bytes in it. -/
theorem reads_agree_on_bytes :
    let x : StreamInner Ranges.Coalesced Nat :=
      { StreamInner.fromRaw .bidirectional with
        recvBuffers := [.new 0 [.ofSlice [], .ofSlice [1, 2]] false] }
    ReadsAgree x 0 1 :=
  (reads_agree_iff _ 0 (Nat.le_refl 1)).mpr fun h => by
    have hbytes := h.2.1.1
    revert hbytes
    decide

/-- One empty Receive: poll_read waits, poll_read_buf reports an end of stream on a stream that is
still open. -/
theorem empty_receive_reads_differ :
    let x : StreamInner Ranges.Coalesced Nat :=
      { StreamInner.fromRaw .bidirectional with recvBuffers := [.new 0 [.ofSlice []] false] }
    (pollRead x 0 8).result.poll = .pending ∧
      (pollReadBuf x 0 8).result.poll = .ready (.ok []) ∧
      (pollReadBuf x 0 8).state.recvState = .startComplete ∧ ¬ ReadsAgree x 0 8 := by
  refine ⟨by decide, by decide, by decide, fun h => ?_⟩
  rcases h.pollReadBuf_end (by decide) with hend | hend
  · revert hend
    decide
  · revert hend
    decide

end Stream

end MsquicAsync
