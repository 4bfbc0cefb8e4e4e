import MsquicAsync.Stream.Twins

/-!
# Writes of any length

A write answers with the length of its input, a `usize`, and MsQuic is told the
length of each piece in 32 bits. Both are the same exactly if every piece is
shorter than `2 ^ 32` (`write_length_kept_iff`); the bytes of a longer one are
dropped, and the write still answers with all of them.
-/

namespace MsquicAsync

open Runs Ranges

variable {R ω : Type}

/-! ## Lengths -/

theorem QuicBuffer.length_ofSlice (s : Bytes) : (ofSlice s).length = s.length % 2 ^ 32 := by
  simp only [length, ofSlice, List.length_take]
  exact Nat.min_eq_left (Nat.mod_le _ _)

theorem length_handed_cons (c : Bytes) (pieces : List Bytes) :
    (handed (c :: pieces)).length = c.length % 2 ^ 32 + (handed pieces).length := by
  rw [← QuicBuffer.length_ofSlice]
  exact List.length_append

theorem length_handed_le (pieces : List Bytes) :
    (handed pieces).length ≤ pieces.flatten.length := by
  induction pieces with
  | nil => exact Nat.le_refl 0
  | cons c pieces ih =>
    rw [length_handed_cons, List.flatten_cons, List.length_append]
    exact Nat.add_le_add (Nat.mod_le _ _) ih

/-- **No byte is dropped, exactly if** every piece is short enough. -/
theorem length_handed_iff (pieces : List Bytes) :
    (handed pieces).length = pieces.flatten.length ↔ ∀ c ∈ pieces, c.length < 2 ^ 32 := by
  refine ⟨fun h => ?_, fun h => by rw [handed_of_lt h]⟩
  induction pieces with
  | nil => exact List.forall_mem_nil _
  | cons c pieces ih =>
    rw [length_handed_cons, List.flatten_cons, List.length_append] at h
    -- neither part can make up for the other
    have hc : c.length % 2 ^ 32 ≤ c.length := Nat.mod_le _ _
    have hrest := length_handed_le pieces
    have hc' : c.length % 2 ^ 32 = c.length := by omega
    refine List.forall_mem_cons.mpr ?_
    exact ⟨(Nat.mod_eq_iff_lt (by decide)).mp hc', ih (by omega)⟩

theorem Sent.length_payload (m : Sent) :
    m.payload.length = (m.buffers.map QuicBuffer.length).sum :=
  List.length_flatMap

/-- The count of a write, summed in a `usize`. -/
def totalWritten (w : Nat) (pieces : List Bytes) : Nat :=
  pieces.foldl (fun total buf => (total + buf.length) % 2 ^ w) 0

theorem totalWritten_of_lt {w : Nat} {pieces : List Bytes} (h : pieces.flatten.length < 2 ^ w) :
    totalWritten w pieces = pieces.flatten.length := by
  have hfold (total : Nat) (ht : total + pieces.flatten.length < 2 ^ w) :
      pieces.foldl (fun total buf => (total + buf.length) % 2 ^ w) total =
        total + pieces.flatten.length := by
    clear h
    induction pieces generalizing total with
    | nil => rfl
    | cons c pieces ih =>
      rw [List.flatten_cons, List.length_append] at ht ⊢
      rw [List.foldl_cons, Nat.mod_eq_of_lt (by omega), ih _ (by omega), Nat.add_assoc]
  have h0 := hfold 0 (by omega)
  rwa [Nat.zero_add] at h0

/-! ## Writes -/

section

variable [WillWake ω] {x : StreamInner R ω} {cx : ω} {extraFlags : SendFlags}
  {writeFn : WriteBuffer → WriteBuffer × WriteStatus Nat} {pieces : List Bytes} {fin : Bool}
  {fresh : Nat} {native : NativeResult}

/-- A write that MsQuic takes hands over the pieces, cut off, and answers with all of them. -/
theorem Stream.handed_pollWriteGeneric (hput : Puts writeFn pieces fin)
    (hx : ∀ b ∈ x.writePool, b.Empty) {m : Sent}
    (hm : m ∈ sends (pollWriteGeneric x cx extraFlags writeFn fresh native).calls)
    (hr : m.refused = false) :
    m.payload = handed pieces ∧
      (StreamRes.write (countWritten
        (pollWriteGeneric x cx extraFlags writeFn fresh native).result)).written? =
          some pieces.flatten.length := by
  unfold pollWriteGeneric at hm ⊢
  split at hm
  case h_3 =>
    obtain ⟨m', hsends, hres, -, hbuf, hans⟩ :=
      sendWrite_spec x extraFlags fresh native hput.ptr hput.status
    rw [hsends] at hm
    obtain rfl := List.mem_singleton.mp hm
    refine ⟨?_, ?_⟩
    · rw [Sent.payload, hbuf]
      exact hput.handed _ (WriteBuffer.empty_popPool hx fresh)
    · cases native with
      | ok _ =>
        obtain ⟨-, -, hresult⟩ := hans
        simp only [hresult]
        rfl
      | error e =>
        rw [Sent.refused, hres] at hr
        cases hr
  all_goals cases hm

theorem Stream.sends_pollWriteGeneric (hput : Puts writeFn pieces fin)
    (hx : x.sendState = .startComplete) :
    ∃ m, sends (pollWriteGeneric x cx extraFlags writeFn fresh native).calls = [m] ∧
      m.result = native := by
  obtain ⟨m, hsends, hres, -⟩ := sendWrite_spec x extraFlags fresh native hput.ptr hput.status
  refine ⟨m, ?_, hres⟩
  unfold pollWriteGeneric
  rw [hx]
  exact hsends

end

section

variable [RangeSet R] [WillWake ω] [StatusApi] {w : Nat} {ok : StreamContract R ω}
  {s : StreamSys R ω}

/-- **A write answers with the length MsQuic is told, exactly if** each of its pieces is shorter
than `2 ^ 32`. -/
theorem write_length_kept_iff {tr : List (StreamStep R ω)} (h : (streamSystem w ok).Run tr s)
    {op : StreamOp ω} {pieces : List Bytes} (hp : op.pieces? = some pieces)
    (hw : pieces.flatten.length < 2 ^ w) {m : Sent} (hm : m ∈ sends (s.call w op).calls)
    (hr : m.refused = false) :
    ∃ n, (s.call w op).result.written? = some n ∧ n = totalWritten w pieces ∧
      ((m.buffers.map QuicBuffer.length).sum = n ↔ ∀ c ∈ pieces, c.length < 2 ^ 32) := by
  have hx : ∀ b ∈ s.inner.writePool, b.Empty := twins_self.mp (StreamTwins.run h).inner
  obtain ⟨cx, extraFlags, writeFn, fin, fresh, native, hput, -, hcall⟩ :=
    StreamSys.call_puts (w := w) (s := s) hp
  rw [hcall] at hm ⊢
  obtain ⟨hpayload, hcount⟩ := Stream.handed_pollWriteGeneric hput hx hm hr
  refine ⟨_, hcount, (totalWritten_of_lt hw).symm, ?_⟩
  rw [← Sent.length_payload, hpayload]
  exact length_handed_iff pieces

end

/-- Two chunks of a byte and two bytes. -/
theorem write_length_kept_three :
    ∃ (s : StreamSys Coalesced Nat) (m : Sent) (n : Nat),
      (streamSystem 64 fun _ _ _ => True).Run [] s ∧
      m ∈ sends (s.call 64 (.pollWriteChunks 7 [[1], [2, 3]] false {} 100 (.ok ()))).calls ∧
      n = totalWritten 64 [[1], [2, 3]] ∧ (m.buffers.map QuicBuffer.length).sum = n := by
  have h := System.Run.start (S := streamSystem (R := Coalesced) (ω := Nat) 64 fun _ _ _ => True)
    (.fromRaw .bidirectional)
  have hp : (StreamOp.pollWriteChunks 7 [[1], [2, 3]] false {} 100 (.ok ()) :
      StreamOp Nat).pieces? = some [[1], [2, 3]] := rfl
  obtain ⟨n, -, hn, hiff⟩ := write_length_kept_iff h hp (by decide) List.mem_cons_self rfl
  exact ⟨_, _, n, h, List.mem_cons_self, hn, hiff.mpr (by decide)⟩

/-- A slice of `2 ^ 32` bytes: MsQuic is handed none of them, and the write answers with all. -/
theorem write_length_dropped :
    ∃ (s : StreamSys Coalesced Nat) (buf : Bytes) (m : Sent),
      (streamSystem 64 fun _ _ _ => True).Run [] s ∧ buf.length = 2 ^ 32 ∧ buf.length < 2 ^ 64 ∧
      sends (s.call 64 (.pollWrite 7 buf false {} 100 (.ok ()))).calls = [m] ∧
      m.refused = false ∧ (m.buffers.map QuicBuffer.length).sum = 0 ∧
      (s.call 64 (.pollWrite 7 buf false {} 100 (.ok ()))).result.written? = some (2 ^ 32) := by
  have h := System.Run.start (S := streamSystem (R := Coalesced) (ω := Nat) 64 fun _ _ _ => True)
    (.fromRaw .bidirectional)
  obtain ⟨buf, hlen⟩ : ∃ buf : Bytes, buf.length = 2 ^ 32 :=
    ⟨List.replicate (2 ^ 32) 0, List.length_replicate⟩
  have hput := Stream.puts_putSliceFn buf false
  have hx := twins_self.mp (StreamTwins.run h).inner
  obtain ⟨m, hsends, hres⟩ : ∃ m, sends (Stream.pollWriteGeneric
      (.fromRaw .bidirectional : StreamInner Coalesced Nat) 7 {} (Stream.putSliceFn buf false) 100
        (.ok ())).calls = [m] ∧ m.result = .ok () :=
    Stream.sends_pollWriteGeneric hput rfl
  have hr : m.refused = false := by rw [Sent.refused, hres]
  obtain ⟨hpayload, hcount⟩ :=
    Stream.handed_pollWriteGeneric hput hx (hsends ▸ List.mem_singleton_self m) hr
  refine ⟨_, buf, m, h, hlen, by omega, hsends, hr, ?_, ?_⟩
  · rw [← Sent.length_payload, hpayload, length_handed_cons, hlen]
    rfl
  · rw [List.flatten_singleton, hlen] at hcount
    exact hcount

end MsquicAsync
