import MsquicAsync.Stream.Accounting

/-!
# What has been completed

When the Receive events tile the stream, the completed length is exactly the
length of the longest prefix that has been released.
-/

namespace MsquicAsync

open Runs Ranges Tiling

variable {R ω : Type}

/-- Receive events are contiguous from 0, shorter than `2 ^ 32`, end below `2 ^ 64` and stop
at ShutdownComplete. -/
structure ReceiveContract (tr : List (StreamStep R ω)) (s : StreamSys R ω) (l : StreamLabel ω) :
    Prop where
  contiguous : Contiguous tr l
  length_lt : ∀ r, l.receive? = some r → r.bytes.length < 2 ^ 32
  end_lt : ∀ r, l.receive? = some r → receivedLen tr + r.bytes.length < 2 ^ 64
  stops : ∀ r, l.receive? = some r → ∀ e ∈ tr, ¬ e.label.IsShutdownComplete

theorem receiveContract_call {tr : List (StreamStep R ω)} {s : StreamSys R ω} {op : StreamOp ω} :
    ReceiveContract tr s (.call op) :=
  ⟨nofun, nofun, nofun, nofun⟩

theorem receiveContract_receive {tr : List (StreamStep R ω)} {s : StreamSys R ω}
    {absoluteOffset total : UInt64} {buffers : List QuicBuffer} {flags : ReceiveFlags}
    (hoff : absoluteOffset.toNat = receivedLen tr)
    (hlen : (buffers.flatMap QuicBuffer.bytes).length < 2 ^ 32)
    (hend : absoluteOffset.toNat + (buffers.flatMap QuicBuffer.bytes).length < 2 ^ 64)
    (hsc : ∀ e ∈ tr, ¬ e.label.IsShutdownComplete) :
    ReceiveContract tr s (.event (.receive absoluteOffset total buffers flags)) where
  contiguous _ h := Option.some.inj h ▸ hoff
  length_lt _ h := Option.some.inj h ▸ hlen
  end_lt _ h := Option.some.inj h ▸ hoff ▸ hend
  stops _ _ := hsc

/-! ## Ranges that are not cut off -/

/-- Every Receive ends below `2 ^ w` and is shorter than `2 ^ 32`. -/
def Uncut (w : Nat) (tr : List (StreamStep R ω)) : Prop :=
  ∀ r ∈ receives tr, r.absoluteOffset.toNat + r.bytes.length < 2 ^ w ∧ r.bytes.length < 2 ^ 32

/-- **A buffer's range is the one of its event, exactly if** neither its end nor its length is
cut off. -/
theorem Receive.range_buffer_iff {w : Nat} {r : Receive} :
    (r.buffer w).range w = (r.absoluteOffset.toNat, r.absoluteOffset.toNat + r.bytes.length) ↔
      r.absoluteOffset.toNat + r.bytes.length < 2 ^ w ∧ r.bytes.length < 2 ^ 32 := by
  have hrange : (r.buffer w).range w = (r.absoluteOffset.toNat % 2 ^ w,
      (r.absoluteOffset.toNat % 2 ^ w + r.bytes.length % 2 ^ 32) % 2 ^ w) := by
    rw [StreamRecvBuffer.range, Receive.buffer, StreamRecvBuffer.len_new]
    rfl
  rw [hrange, Prod.mk.injEq]
  constructor
  · rintro ⟨hoff, hend⟩
    rw [hoff] at hend
    have hlt : r.absoluteOffset.toNat + r.bytes.length < 2 ^ w :=
      hend ▸ Nat.mod_lt _ (Nat.two_pow_pos w)
    have hle : r.bytes.length % 2 ^ 32 ≤ r.bytes.length := Nat.mod_le _ _
    rw [Nat.mod_eq_of_lt (by omega)] at hend
    exact ⟨hlt, (Nat.mod_eq_iff_lt (by decide)).mp (Nat.add_left_cancel hend)⟩
  · rintro ⟨hlt, h32⟩
    rw [Nat.mod_eq_of_lt (by omega), Nat.mod_eq_of_lt h32, Nat.mod_eq_of_lt hlt]
    exact ⟨rfl, rfl⟩

section

variable {w : Nat} {tr : List (StreamStep R ω)} {s : StreamSys R ω}

theorem Uncut.receivedLen_lt (hu : Uncut w tr)
    (ht : Tiles ((receives tr).map Receive.span) (receivedLen tr)) : receivedLen tr < 2 ^ w := by
  cases hr : receives tr with
  | nil =>
    rw [hr] at ht
    have h0 : receivedLen tr = 0 := ht
    rw [h0]
    exact Nat.two_pow_pos w
  | cons r rest =>
    have hlt := (hu r (hr ▸ List.mem_cons_self)).1
    rw [hr] at ht
    have hlen : receivedLen tr = r.absoluteOffset.toNat + r.bytes.length := ht.1
    rw [hlen]
    exact hlt

theorem Uncut.offset_lt (hu : Uncut w tr) {r : Receive} (hr : r ∈ receives tr) :
    r.absoluteOffset.toNat < 2 ^ w :=
  Nat.lt_of_le_of_lt (Nat.le_add_right _ _) (hu r hr).1

variable [RangeSet R]

/-- The range is the bytes that belong to the buffer. -/
theorem Uncut.range_iff_covers (hu : Uncut w tr) (hacc : Accounting w tr s)
    {b : StreamRecvBuffer} (hb : b ∈ released tr ++ s.held ++ s.inner.recvBuffers) (p : Nat) :
    ((b.range w).1 ≤ p ∧ p < (b.range w).2) ↔ b.Covers p := by
  obtain ⟨r, hr, hrb⟩ := hacc.exists_receive hb
  have hrange : b.range w = (r.absoluteOffset.toNat, r.absoluteOffset.toNat + r.bytes.length) :=
    (congrArg (StreamRecvBuffer.range w) hrb).symm.trans (Receive.range_buffer_iff.mpr (hu r hr))
  have hoff : b.offset = r.absoluteOffset.toNat := congrArg Prod.fst hrange
  have hcontent : b.content = r.bytes := (congrArg StreamRecvBuffer.content hrb).symm
  rw [hrange, StreamRecvBuffer.Covers, hoff, hcontent]

theorem Uncut.exists_covers (hu : Uncut w tr) (hacc : Accounting w tr s)
    (ht : Tiles ((receives tr).map Receive.span) (receivedLen tr)) {p : Nat}
    (hp : p < receivedLen tr) :
    ∃ b ∈ released tr ++ s.held ++ s.inner.recvBuffers, b.Covers p := by
  obtain ⟨x, hx, hpx⟩ := ht.mem_iff.mpr hp
  obtain ⟨r, hr, rfl⟩ := List.mem_map.mp hx
  have hmem := hacc.perm.mem_iff.mpr (List.mem_map_of_mem (f := Receive.buffer w) hr)
  obtain ⟨b, hb, hrb⟩ := List.mem_map.mp hmem
  refine ⟨b, hb, ?_⟩
  have hoffset : b.offset = r.absoluteOffset.toNat := by
    have := congrArg StreamRecvBuffer.offset hrb
    exact this.trans (Nat.mod_eq_of_lt (hu.offset_lt hr))
  have hcontent : b.content = r.bytes := congrArg StreamRecvBuffer.content hrb
  rw [StreamRecvBuffer.Covers, hoffset, hcontent]
  exact hpx

theorem Uncut.lt_receivedLen_of_covers (hu : Uncut w tr) (hacc : Accounting w tr s)
    (ht : Tiles ((receives tr).map Receive.span) (receivedLen tr)) {b : StreamRecvBuffer}
    (hb : b ∈ released tr ++ s.held ++ s.inner.recvBuffers) {p : Nat} (hp : b.Covers p) :
    p < receivedLen tr := by
  obtain ⟨r, hr, hrb⟩ := hacc.exists_receive hb
  have hspan : InSpan p r.span := Receive.span_of_covers (fun _ => hu.offset_lt hr) (hrb ▸ hp)
  exact Nat.lt_of_lt_of_le hspan.2 (ht.inSpan_lt (List.mem_map_of_mem hr))

variable [LawfulRangeSet R]

/-- **What has been completed** is the longest received prefix whose bytes are all in released
buffers. So nothing held or queued is ever completed, and when nothing is held or queued
everything is. -/
theorem Accounting.completion (hacc : Accounting w tr s) (hu : Uncut w tr)
    (ht : Tiles ((receives tr).map Receive.span) (receivedLen tr)) :
    IsGreatest {n | n ≤ receivedLen tr ∧ ∀ p, p < n → ∃ b ∈ released tr, b.Covers p}
        (completedLen tr) ∧
      (∀ b ∈ s.held ++ s.inner.recvBuffers, ∀ p, b.Covers p → completedLen tr ≤ p) ∧
      (s.held = [] → s.inner.recvBuffers = [] → completedLen tr = receivedLen tr) := by
  have hoff : ∀ r ∈ receives tr, r.bytes ≠ [] → r.absoluteOffset.toNat < 2 ^ w :=
    fun r hr _ => hu.offset_lt hr
  -- the set of completed ranges is the set of bytes in released buffers
  have hcontains (p : Nat) : RangeSet.contains s.inner.readCompleteMap p = true ↔
      ∃ b ∈ released tr, b.Covers p := by
    rw [hacc.contains]
    refine exists_congr fun b => and_congr_right fun hb => hu.range_iff_covers hacc ?_ p
    exact List.mem_append_left _ (List.mem_append_left _ hb)
  have hcompleted : completedLen tr = prefixEnd s.inner.readCompleteMap :=
    hacc.completed.trans hacc.cursor
  have hgreatest := isGreatest_prefixEnd s.inner.readCompleteMap
  have hbelow : completedLen tr ≤ receivedLen tr := by
    by_contra hgt
    obtain ⟨b, hb, hcov⟩ := (hcontains (receivedLen tr)).mp (hgreatest.1 _ (by omega))
    exact Nat.lt_irrefl _ (hu.lt_receivedLen_of_covers hacc ht
      (List.mem_append_left _ (List.mem_append_left _ hb)) hcov)
  have hupper {n : Nat} (hn : ∀ p, p < n → ∃ b ∈ released tr, b.Covers p) :
      n ≤ completedLen tr := by
    rw [hcompleted]
    exact hgreatest.2 fun p hp => (hcontains p).mpr (hn p hp)
  refine ⟨⟨⟨hbelow, fun p hp => (hcontains p).mp (hgreatest.1 p (hcompleted ▸ hp))⟩,
    fun n hn => hupper hn.2⟩, fun b hb p hp => ?_, fun hheld hq => ?_⟩
  · by_contra hlt
    obtain ⟨b', hb', hcov⟩ := (hcontains p).mp (hgreatest.1 p (by omega))
    exact hacc.disjoint ht hoff hb' hb hcov hp
  · refine Nat.le_antisymm hbelow (hupper fun p hp => ?_)
    obtain ⟨b, hb, hcov⟩ := hu.exists_covers hacc ht hp
    rw [hheld, hq, List.append_nil, List.append_nil] at hb
    exact ⟨b, hb, hcov⟩

end

section

variable [RangeSet R] [WillWake ω] [StatusApi] {tr : List (StreamStep R ω)} {s : StreamSys R ω}

theorem uncut_run (h : (streamSystem 64 ReceiveContract).Run tr s) : Uncut 64 tr := by
  refine h.invariant (I := fun tr _ => Uncut 64 tr) (fun _ _ => nofun) fun tr s l _ hl ih => ?_
  cases hr : l.receive? with
  | none => simpa [Uncut, receives_cons, hr] using ih
  | some r =>
    have hoff := hl.contiguous r hr
    have hend := hl.end_lt r hr
    intro r' hr'
    rw [receives_cons, System.take_label, hr] at hr'
    rcases List.mem_cons.mp hr' with rfl | hr'
    · exact ⟨hoff ▸ hend, hl.length_lt _ hr⟩
    · exact ih r' hr'

theorem receives_tile (h : (streamSystem 64 ReceiveContract).Run tr s) :
    Tiles ((receives tr).map Receive.span) (receivedLen tr) :=
  tiles_run (fun hok => hok.contiguous) h

/-- **The completed length is exact**: it is the length of the longest received prefix whose
bytes are all in released buffers. So nothing held or queued is ever completed, and when
nothing is held or queued everything is. -/
theorem completion_exact [LawfulRangeSet R] (h : (streamSystem 64 ReceiveContract).Run tr s) :
    IsGreatest {n | n ≤ receivedLen tr ∧ ∀ p, p < n → ∃ b ∈ released tr, b.Covers p}
        (completedLen tr) ∧
      (∀ b ∈ s.held ++ s.inner.recvBuffers, ∀ p, b.Covers p → completedLen tr ≤ p) ∧
      (s.held = [] → s.inner.recvBuffers = [] → completedLen tr = receivedLen tr) :=
  (accounting_run h).completion (uncut_run h) (receives_tile h)

end

/-- Two chunks are read and the second one is dropped: nothing is completed yet. -/
theorem completion_exact_two_chunks :
    ∃ (tr : List (StreamStep Coalesced Nat)) (s : StreamSys Coalesced Nat),
      (streamSystem 64 ReceiveContract).Run tr s ∧
      tr.map Step.label =
        [.call (.dropRecvBuffer 1), .call (.pollReadChunk 7),
          .event (.receive 2 1 [.ofSlice [3]] { fin := true }), .call (.pollReadChunk 7),
          .event (.receive 0 2 [.ofSlice [1, 2]] {})] ∧
      ∀ b ∈ s.held ++ s.inner.recvBuffers, ∀ p, b.Covers p → completedLen tr ≤ p := by
  have h0 := System.Run.start (S := streamSystem (R := Coalesced) (ω := Nat) 64 ReceiveContract)
    (.fromRaw .bidirectional)
  have h1 := h0.step (.event (.receive 0 2 [.ofSlice [1, 2]] {}))
    (by exact receiveContract_receive rfl (by decide) (by decide) (by simp))
  have h2 := (h1.step (.call (.pollReadChunk 7)) (by exact receiveContract_call)).step
    (.event (.receive 2 1 [.ofSlice [3]] { fin := true }))
    (by
      refine receiveContract_receive rfl (by decide) (by decide) ?_
      simp [StreamLabel.IsShutdownComplete])
  have h3 := (h2.step (.call (.pollReadChunk 7)) (by exact receiveContract_call)).step
    (.call (.dropRecvBuffer 1)) (by exact receiveContract_call)
  exact ⟨_, _, h3, rfl, (completion_exact h3).2.1⟩

end MsquicAsync
