import MsquicAsync.Buffer.Cursor
import MsquicAsync.Lib.Draining

/-!
# When a receive buffer can be drained

The consumer loop of `bytes::Buf` copies the chunk and advances past it, so it
counts on a chunk wherever something remains. Neither `new` nor `advance` moves
the cursor over an empty segment: standing before one the buffer shows nothing
and an advance by nothing stays there.
-/

namespace MsquicAsync

open Runs Draining

namespace StreamRecvBuffer

variable {b : StreamRecvBuffer}

/-- The buffer after `advance`; within what is left it does not panic (`advance_spec`). -/
def advanced (b : StreamRecvBuffer) (count : Nat) : StreamRecvBuffer :=
  match b.advance count with
  | .returned b' => b'
  | .panicked _ => b

/-- The buffer as the consumer loop sees it. -/
def source : Source StreamRecvBuffer UInt8 where
  chunk := chunk
  advance := advanced
  rest := unread

/-- `copy_to_slice`, `copy_to_bytes`: copy `n` bytes in at most `fuel` rounds. -/
def copy (fuel : Nat) (b : StreamRecvBuffer) (n : Nat) : Option (Bytes × StreamRecvBuffer) :=
  source.drain fuel b n

theorem CursorOk.advanced_spec (h : b.CursorOk) {count : Nat} (hcount : count ≤ b.unread.length) :
    (b.advanced count).CursorOk ∧ (∃ c i, b.advanced count = b.withCursor c i) ∧
      (b.advanced count).unread = b.unread.drop count := by
  obtain ⟨b', -, hmodel, hok, hunread⟩ := h.advance_spec hcount
  have heq : b.advanced count = b' := by simp only [advanced, hmodel]
  rw [heq]
  exact ⟨hok, advance_cursor hmodel, hunread⟩

/-- No empty segment has bytes behind it. -/
def EmptiesLast (segments : List QuicBuffer) : Prop :=
  ∀ c buffer, segments[c]? = some buffer → buffer.bytes = [] →
    (segments.drop (c + 1)).flatMap QuicBuffer.bytes = []

/-- Where no empty segment has bytes behind it, a chunk is shown as long as bytes are left. -/
theorem CursorOk.chunk_ne_nil (h : b.CursorOk) (hlast : EmptiesLast b.buffers)
    (hne : b.unread ≠ []) : b.chunk ≠ [] := by
  have hpos := List.length_pos_iff.mpr hne
  unfold chunk asSliceUptoSize
  rw [show b.length = b.unread.length from h.remaining_eq]
  split
  · next hnone => exact absurd (unread_of_exhausted (List.getElem?_eq_none_iff.mp hnone)) hne
  next buffer hget =>
    have hlen : buffer.length = buffer.bytes.length := rfl
    apply List.ne_nil_of_length_pos
    rw [List.length_take, List.length_drop]
    suffices b.readCursorInBuffer < buffer.length by omega
    rcases h.inBuffer with h0 | ⟨x, hx, hlt⟩
    · rw [h0]
      by_contra hempty
      have hnil : buffer.bytes = [] := List.eq_nil_of_length_eq_zero (by omega)
      apply hne
      rw [unread_of_get hget, hnil, List.drop_nil, List.nil_append]
      exact hlast _ _ hget hnil
    · obtain rfl : buffer = x := Option.some.inj (hget.symm.trans hx)
      exact hlt

/-- The segments of a buffer with its cursor in order. -/
def Within (segments : List QuicBuffer) (b : StreamRecvBuffer) : Prop :=
  b.CursorOk ∧ b.buffers = segments

theorem source_lawful (segments : List QuicBuffer) : source.Lawful (Within segments) where
  chunk_prefix _ := CursorOk.chunk_prefix _
  rest_advance h hk := (h.1.advanced_spec hk).2.2
  keeps h hk := by
    obtain ⟨hok, ⟨c, i, hcursor⟩, -⟩ := h.1.advanced_spec hk
    exact ⟨hok, (congrArg buffers hcursor).trans h.2⟩

theorem source_flows {segments : List QuicBuffer} (hlast : EmptiesLast segments) :
    source.Flows (Within segments) :=
  fun _ h hne => h.1.chunk_ne_nil (h.2 ▸ hlast) hne

/-! ## Where the cursor gets -/

theorem cursorStep_skip {b : StreamRecvBuffer} {buffer : QuicBuffer} (h : b.CursorOk)
    (hget : b.buffers[b.readCursor]? = some buffer) :
    (cursorStep b (.getBytesUptoSize (2 ^ 32))).1 = b.withCursor (b.readCursor + 1) 0 := by
  have hlen : buffer.length = buffer.bytes.length := rfl
  have hlt := buffer.length_lt
  have hle := h.inBuffer_le hget
  have hg : b.getBytesUptoSize (2 ^ 32) =
      some (buffer.bytes.drop b.readCursorInBuffer, b.withCursor (b.readCursor + 1) 0) := by
    simp only [getBytesUptoSize, hget]
    rw [if_pos (by omega), List.take_of_length_le (by rw [List.length_drop]; omega)]
  simp only [cursorStep, h.getBytesUptoSize_eq, hg]

/-- Some history leads to the start of each segment. -/
theorem exists_run_to {start : StreamRecvBuffer} (h : start.CursorOk)
    (h0 : start = start.withCursor 0 0) (c : Nat) (hc : c ≤ start.buffers.length) :
    ∃ tr, (cursorSystem start).Run tr (start.withCursor c 0) := by
  induction c with
  | zero => exact ⟨[], .start h0.symm⟩
  | succ c ih =>
    obtain ⟨tr, hr⟩ := ih (by omega)
    have hget : start.buffers[c]? = some start.buffers[c] := List.getElem?_eq_getElem hc
    have hstep := hr.step (CursorOp.getBytesUptoSize (2 ^ 32)) trivial
    rw [show ((cursorSystem start).next (start.withCursor c 0) (.getBytesUptoSize (2 ^ 32))).1 =
      (start.withCursor c 0).withCursor (c + 1) 0 from cursorStep_skip (cursor_run h hr).1 hget]
      at hstep
    exact ⟨_, hstep⟩

theorem copy_stuck {buffer : QuicBuffer} (hget : b.buffers[b.readCursor]? = some buffer)
    (hempty : buffer.bytes = []) {n : Nat} (hn : n ≠ 0) :
    b.chunk = [] ∧ ∀ fuel, copy fuel b n = none := by
  have hchunk : b.chunk = [] := by
    simp only [chunk, asSliceUptoSize, hget, hempty, List.drop_nil, List.take_nil]
  have hstay : b.advanced 0 = b := by
    have hloop : ∀ buffers c i, advanceLoop buffers 0 c i = (c, i) := by
      intro buffers c i
      cases buffers <;> rfl
    simp only [advanced, advance, true_or, if_true, hloop]
    rfl
  exact ⟨hchunk, Source.drain_stuck hchunk hstay hn⟩

/-- After every history of reads and advances, a chunk is shown as long as bytes are left, and
the consumer loop returns with the bytes it was asked for. -/
def ProgressLaw (segments : List QuicBuffer) : Prop :=
  ∀ offset fin tr b, (cursorSystem (new offset segments fin)).Run tr b →
    (0 < b.remaining → b.chunk ≠ []) ∧
      ∀ n ≤ b.remaining, ∃ fuel b', copy fuel b n = some (b.unread.take n, b')

/-- **The progress law holds exactly where no empty segment has bytes behind it.** -/
theorem progressLaw_iff {segments : List QuicBuffer}
    (hlen : (segments.flatMap QuicBuffer.bytes).length < 2 ^ 32) :
    ProgressLaw segments ↔ EmptiesLast segments := by
  constructor
  · intro hlaw c buffer hget hempty
    by_contra hne
    obtain ⟨hc, -⟩ := List.getElem?_eq_some_iff.mp hget
    -- read up to the empty segment: nothing is shown there, and the bytes behind it are left
    have hstart : (new 0 segments false).CursorOk := cursorOk_new hlen
    obtain ⟨tr, hr⟩ := exists_run_to hstart rfl c (Nat.le_of_lt hc)
    obtain ⟨hshown, -⟩ := hlaw 0 false tr _ hr
    have hok := (cursor_run hstart hr).1
    refine hshown ?_ (copy_stuck hget hempty Nat.one_ne_zero).1
    rw [hok.remaining_eq, unread_of_get hget, hempty, List.drop_nil, List.nil_append]
    exact List.length_pos_iff.mpr hne
  · intro hlast offset fin tr b hr
    obtain ⟨hok, ⟨c, i, rfl⟩, -⟩ := cursor_run (cursorOk_new hlen) hr
    rw [hok.remaining_eq]
    refine ⟨fun hpos => hok.chunk_ne_nil hlast (List.length_pos_iff.mp hpos), fun n hn => ?_⟩
    obtain ⟨b', hcopy, -⟩ := (source_lawful segments).drain_flows (source_flows hlast)
      (I := Within segments) ⟨hok, rfl⟩ hn (Nat.le_refl n)
    exact ⟨n, b', hcopy⟩

/-- Empty segments at the end do no harm. -/
theorem progressLaw_trailing : ProgressLaw [.ofSlice [1, 2], .ofSlice [3], .ofSlice []] := by
  refine (progressLaw_iff (by decide)).mpr fun c buffer hget hempty => ?_
  match c, hget with
  | 0, hget => cases hget; cases hempty
  | 1, hget => cases hget; cases hempty
  | 2, _ => rfl

/-- An empty segment in front of a byte: one byte remains, no chunk is shown, and the consumer
loop never returns. -/
theorem empty_segment_stops_consumer :
    let segments := [QuicBuffer.ofSlice [], .ofSlice [1]]
    let b := new 0 segments false
    (cursorSystem b).Run [] b ∧ b.remaining = 1 ∧ b.chunk = [] ∧ (∀ fuel, copy fuel b 1 = none) ∧
      ¬ ProgressLaw segments := by
  have hstuck := copy_stuck (b := new 0 [.ofSlice [], .ofSlice [1]] false) rfl rfl Nat.one_ne_zero
  refine ⟨.start rfl, rfl, hstuck.1, hstuck.2, fun hlaw => ?_⟩
  exact (hlaw 0 false [] _ (.start rfl)).1 Nat.one_pos hstuck.1

end StreamRecvBuffer

end MsquicAsync
