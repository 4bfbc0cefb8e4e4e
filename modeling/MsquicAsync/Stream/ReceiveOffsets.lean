import MsquicAsync.Stream.Completion
import MsquicAsync.Stream.SendCalls

/-!
# Offsets of any size

MsQuic reports offsets and totals in 64 bits. The stream casts them to `usize`
and sums the lengths of the segments in 32 bits. What it keeps of a run is exact
as long as no Receive carries `2 ^ 32` bytes or ends at `2 ^ w` or beyond, and no
longer (`receive_exact_iff`).
-/

namespace MsquicAsync

open Runs Ranges Tiling

variable {R ω : Type}

/-- The total of a Receive is the sum of the lengths of its segments. -/
def StreamLabel.TotalExact : StreamLabel ω → Prop
  | .event (.receive _ totalBufferLength buffers _) =>
    totalBufferLength.toNat = (buffers.map QuicBuffer.length).sum
  | _ => True

/-- Receive events are contiguous from 0, start below `2 ^ 62`, and their totals are exact. -/
structure ReceiveSizes (tr : List (StreamStep R ω)) (s : StreamSys R ω) (l : StreamLabel ω) :
    Prop where
  contiguous : Contiguous tr l
  offset_lt : ∀ r, l.receive? = some r → r.absoluteOffset.toNat < 2 ^ 62
  total : l.TotalExact

theorem receiveSizes_call {tr : List (StreamStep R ω)} {s : StreamSys R ω} {op : StreamOp ω} :
    ReceiveSizes tr s (.call op) where
  contiguous _ h := by cases h
  offset_lt _ h := by cases h
  total := trivial

theorem receiveSizes_receive {tr : List (StreamStep R ω)} {s : StreamSys R ω}
    {absoluteOffset total : UInt64} {buffers : List QuicBuffer} {flags : ReceiveFlags}
    (hoff : absoluteOffset.toNat = receivedLen tr) (hlt : absoluteOffset.toNat < 2 ^ 62)
    (htotal : total.toNat = (buffers.map QuicBuffer.length).sum) :
    ReceiveSizes tr s (.event (.receive absoluteOffset total buffers flags)) where
  contiguous _ h := Option.some.inj h ▸ hoff
  offset_lt _ h := Option.some.inj h ▸ hlt
  total := htotal

/-- Each buffer has the range of its Receive event, `recv_len` has counted every byte, and once
every buffer has been dropped every byte is completed. -/
structure ReceiveExact [RangeSet R] (w : Nat) (tr : List (StreamStep R ω)) (s : StreamSys R ω) :
    Prop where
  range : ∀ b ∈ released tr ++ s.held ++ s.inner.recvBuffers, ∀ r ∈ receives tr,
    r.buffer w = b.rewound →
      b.range w = (r.absoluteOffset.toNat, r.absoluteOffset.toNat + r.bytes.length)
  recvLen : s.inner.recvLen = receivedLen tr
  completed : s.held = [] → s.inner.recvBuffers = [] → completedLen tr = receivedLen tr

section

variable [RangeSet R] [WillWake ω] [StatusApi] {w : Nat} {tr : List (StreamStep R ω)}
  {s : StreamSys R ω}

theorem recvLen_step {l : StreamLabel ω} (h : l.TotalExact) :
    (s.step w l).state.inner.recvLen =
      (l.receive?.elim s.inner.recvLen fun r => (s.inner.recvLen + r.bytes.length) % 2 ^ w) := by
  cases hr : l.receive? with
  | none => exact (StreamSys.step_shared l).2.2 hr
  | some r =>
    cases l with
    | call op => cases hr
    | event ev =>
      cases ev with
      | receive absoluteOffset total buffers flags =>
        obtain rfl := Option.some.inj hr
        have hlen : total.toNat = (buffers.flatMap QuicBuffer.bytes).length :=
          h.trans List.length_flatMap.symm
        show (s.inner.recvLen + total.toNat) % 2 ^ w = _
        rw [hlen]
        rfl
      | _ => cases hr

theorem recvLen_run (h : (streamSystem w ReceiveSizes).Run tr s) :
    s.inner.recvLen = receivedLen tr % 2 ^ w := by
  refine h.invariant (I := fun tr s => s.inner.recvLen = receivedLen tr % 2 ^ w) ?_
    fun tr s l _ hl ih => ?_
  · rintro s (_ | _) <;> exact (Nat.zero_mod _).symm
  · show (s.step w l).state.inner.recvLen = _
    rw [recvLen_step hl.total, receivedLen_cons, System.take_label, ih]
    cases l.receive? with
    | none => exact congrArg (· % 2 ^ w) (Nat.zero_add _).symm
    | some r =>
      show (receivedLen tr % 2 ^ w + r.bytes.length) % 2 ^ w = _
      rw [Nat.mod_add_mod, Nat.add_comm]
      rfl

/-- **The arithmetic of a run is exact, exactly if** every Receive has carried fewer than
`2 ^ 32` bytes and ended below `2 ^ w`. -/
theorem receive_exact_iff [LawfulRangeSet R] (h : (streamSystem w ReceiveSizes).Run tr s) :
    ReceiveExact w tr s ↔ Uncut w tr := by
  have hacc := accounting_run h
  have ht := tiles_run (fun hok => hok.contiguous) h
  constructor
  · intro hexact r hr
    -- the buffer of the event is still somewhere
    have hmem := hacc.perm.mem_iff.mpr (List.mem_map_of_mem (f := Receive.buffer w) hr)
    obtain ⟨b, hb, hrb⟩ := List.mem_map.mp hmem
    apply Receive.range_buffer_iff.mp
    rw [← hrb, StreamRecvBuffer.rewound_range]
    exact hexact.range b hb r hr hrb.symm
  · intro hu
    refine ⟨fun b _ r hr hrb => ?_, ?_, (hacc.completion hu ht).2.2⟩
    · rw [← StreamRecvBuffer.rewound_range, ← hrb]
      exact Receive.range_buffer_iff.mpr (hu r hr)
    · rw [recvLen_run h, Nat.mod_eq_of_lt (hu.receivedLen_lt ht)]

end

/-- Two chunks are read and dropped, the second one first. -/
theorem receive_exact_two_chunks :
    ∃ (tr : List (StreamStep Coalesced Nat)) (s : StreamSys Coalesced Nat),
      (streamSystem 32 ReceiveSizes).Run tr s ∧
      tr.map Step.label =
        [.call (.dropRecvBuffer 0), .call (.dropRecvBuffer 1), .call (.pollReadChunk 7),
          .event (.receive 2 1 [.ofSlice [3]] { fin := true }), .call (.pollReadChunk 7),
          .event (.receive 0 2 [.ofSlice [1, 2]] {})] ∧
      ReceiveExact 32 tr s := by
  have h0 := System.Run.start (S := streamSystem (R := Coalesced) (ω := Nat) 32 ReceiveSizes)
    (.fromRaw .bidirectional)
  have h1 := h0.step (.event (.receive 0 2 [.ofSlice [1, 2]] {}))
    (by exact receiveSizes_receive rfl (by decide) rfl)
  have h2 := (h1.step (.call (.pollReadChunk 7)) (by exact receiveSizes_call)).step
    (.event (.receive 2 1 [.ofSlice [3]] { fin := true }))
    (by exact receiveSizes_receive rfl (by decide) rfl)
  have h3 := (h2.step (.call (.pollReadChunk 7)) (by exact receiveSizes_call)).step
    (.call (.dropRecvBuffer 1)) (by exact receiveSizes_call)
  have h4 := h3.step (.call (.dropRecvBuffer 0)) (by exact receiveSizes_call)
  refine ⟨_, _, h4, rfl, (receive_exact_iff h4).mpr fun r hr => ?_⟩
  have hr : r ∈ [⟨2, [.ofSlice [3]], true⟩, ⟨0, [.ofSlice [1, 2]], false⟩] := hr
  rcases List.mem_pair.mp hr with rfl | rfl <;> decide

/-! ## A long transfer on 32 bits -/

section

variable [RangeSet R] {w : Nat} {tr : List (StreamStep R ω)} {s : StreamSys R ω}

/-- Nothing is completed beyond the limit of a `usize`, whatever is received. -/
theorem Accounting.completedLen_lt [LawfulRangeSet R] (h : Accounting w tr s) :
    completedLen tr < 2 ^ w := by
  rw [h.completed, h.cursor]
  by_contra hge
  have hpos := Nat.two_pow_pos w
  obtain ⟨b, -, -, hlt⟩ := (h.contains (2 ^ w - 1)).mp (contains_of_lt_prefixEnd (by omega))
  have hend : (b.offset + b.len) % 2 ^ w < 2 ^ w := Nat.mod_lt _ hpos
  simp only [StreamRecvBuffer.range] at hlt
  omega

variable [WillWake ω] [StatusApi] {b : StreamRecvBuffer}

theorem StreamSys.step_readChunk (cx : ω) (hr : s.inner.recvState = .startComplete)
    (hq : s.inner.recvBuffers = [b]) (hf : b.fin = false) :
    (s.step w (.call (.pollReadChunk cx))).state =
      ⟨{ s.inner with recvBuffers := [] }, s.held ++ [b.setStream], s.native⟩ := by
  simp only [step, call, Stream.pollReadChunk, Stream.pollReadGeneric, hr, hq, Stream.popChunk, hf]
  simp [afterRead, Ran.lift, ReadStatus.ofPair, handedChunk]

theorem StreamSys.step_dropOnly (h : s.held = [b]) :
    (s.step w (.call (.dropRecvBuffer 0))).state.inner.recvState = s.inner.recvState ∧
      (s.step w (.call (.dropRecvBuffer 0))).state.inner.recvBuffers = s.inner.recvBuffers ∧
      (s.step w (.call (.dropRecvBuffer 0))).state.held = [] := by
  have hop : (.dropRecvBuffer 0 : StreamOp ω).IsHeld := trivial
  obtain ⟨map, cursor, hy⟩ := StreamSys.call_held (w := w) (s := s) hop
  refine ⟨congrArg (fun y => y.recvState) hy, congrArg (fun y => y.recvBuffers) hy, ?_⟩
  simp only [step, call, h]
  rfl

end

/-- A segment of 64 KiB. -/
def zeros : QuicBuffer where
  bytes := List.replicate (2 ^ 16) 0
  length_lt := by
    rw [List.length_replicate]
    decide

theorem length_zeros : ([zeros].map QuicBuffer.length).sum = 2 ^ 16 := by
  rw [List.map_singleton, List.sum_singleton]
  exact List.length_replicate

/-- The segment is received in its turn. -/
def receiveZeros (k : Nat) : StreamLabel Nat :=
  .event (.receive (.ofNat (k * 2 ^ 16)) (2 ^ 16) [zeros] {})

/-- It is received, read and dropped; the last step comes first. -/
def zerosTurn (k : Nat) : List (StreamLabel Nat) :=
  [.call (.dropRecvBuffer 0), .call (.pollReadChunk 7), receiveZeros k]

/-- The stream can be read, and every buffer has been dropped. -/
structure Drained (s : StreamSys R ω) : Prop where
  recvState : s.inner.recvState = .startComplete
  recvBuffers : s.inner.recvBuffers = []
  held : s.held = []

theorem Drained.turn {s : StreamSys Coalesced Nat} (h : Drained s) (k : Nat) :
    Drained (((s.step 32 (receiveZeros k)).state.step 32 (.call (.pollReadChunk 7))).state.step 32
      (.call (.dropRecvBuffer 0))).state := by
  obtain ⟨hr, hq, hh⟩ := h
  have hread := StreamSys.step_readChunk (w := 32) (s := (s.step 32 (receiveZeros k)).state) 7 hr
    (congrArg (· ++ _) hq) rfl
  have hheld : (s.step 32 (receiveZeros k)).state.held = [] := hh
  rw [hheld] at hread
  obtain ⟨hr', hq', hh'⟩ := StreamSys.step_dropOnly (w := 32) (congrArg (fun s => s.held) hread)
  refine ⟨hr'.trans ?_, hq'.trans ?_, hh'⟩
  · rw [hread]
    exact hr
  · rw [hread]

theorem exists_zerosTurns (n : Nat) (hn : n ≤ 2 ^ 16) :
    ∃ (tr : List (StreamStep Coalesced Nat)) (s : StreamSys Coalesced Nat),
      (streamSystem 32 ReceiveSizes).Run tr s ∧
      tr.map Step.label = (List.range n).reverse.flatMap zerosTurn ∧
      receivedLen tr = n * 2 ^ 16 ∧ Drained s := by
  induction n with
  | zero => exact ⟨[], _, System.Run.start (.fromRaw .bidirectional), rfl, rfl, rfl, rfl, rfl⟩
  | succ n ih =>
    obtain ⟨tr, s, h, hlabel, hlen, hs⟩ := ih (by omega)
    have hoff : (UInt64.ofNat (n * 2 ^ 16)).toNat = n * 2 ^ 16 :=
      UInt64.toNat_ofNat_of_lt' (Nat.lt_of_lt_of_le (by omega : n * 2 ^ 16 < 2 ^ 32) (by decide))
    have h1 := h.step (receiveZeros n)
      (receiveSizes_receive (by rw [hoff, hlen]) (by rw [hoff]; omega) (by rw [length_zeros]; rfl))
    have h2 := h1.step (.call (.pollReadChunk 7)) (by exact receiveSizes_call)
    have h3 := h2.step (.call (.dropRecvBuffer 0)) (by exact receiveSizes_call)
    refine ⟨_, _, h3, ?_, ?_, hs.turn n⟩
    · rw [List.range_succ, List.reverse_append, List.reverse_singleton, List.singleton_append,
        List.flatMap_cons, ← hlabel]
      rfl
    · have hr : (receiveZeros n).receive? = some ⟨.ofNat (n * 2 ^ 16), [zeros], false⟩ := rfl
      show receivedLen ((streamSystem 32 ReceiveSizes).take s (receiveZeros n) :: tr) = _
      rw [receivedLen_cons, System.take_label, hr, hlen, Option.toList_some, List.map_singleton,
        List.sum_singleton, Nat.succ_mul, Nat.add_comm]
      exact congrArg (n * 2 ^ 16 + ·) (List.length_flatMap.trans length_zeros)

/-- Each of 65536 segments is read and dropped when it has arrived: `recv_len` ends at 0, and the
end of the transfer is never completed. -/
theorem receive_exact_wrapped :
    ∃ (tr : List (StreamStep Coalesced Nat)) (s : StreamSys Coalesced Nat),
      (streamSystem 32 ReceiveSizes).Run tr s ∧
      tr.map Step.label = (List.range (2 ^ 16)).reverse.flatMap zerosTurn ∧
      receivedLen tr = 2 ^ 32 ∧ s.inner.recvLen = 0 ∧ s.held = [] ∧ s.inner.recvBuffers = [] ∧
      completedLen tr < 2 ^ 32 ∧ ¬ ReceiveExact 32 tr s := by
  obtain ⟨tr, s, h, hlabel, hlen, hs⟩ := exists_zerosTurns (2 ^ 16) (Nat.le_refl _)
  have hlt := (accounting_run h).completedLen_lt
  refine ⟨tr, s, h, hlabel, hlen, ?_, hs.held, hs.recvBuffers, hlt, fun hexact => ?_⟩
  · rw [recvLen_run h, hlen]
    decide
  · have hall := hexact.completed hs.held hs.recvBuffers
    omega

end MsquicAsync
