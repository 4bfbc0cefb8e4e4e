import MsquicAsync.Buffer
import MsquicAsync.Lib.Runs

/-!
# A receive buffer as a cursor over its segments

The operations once more, with every check a debug build makes: slice bounds,
assertions, and the arithmetic that may wrap (`Checked`). A buffer is moved by
`CursorOp`s; `CursorOk` is what every history of them keeps, and under it no
check fails and each operation works on the front of `unread`.

The additions that move the cursors are not checked here: a cursor stays within
the lengths it indexes (`CursorOk`).
-/

namespace MsquicAsync

open Runs

/-- `a - b`, as a debug build computes it. -/
def checkedSub (a b : Nat) : Outcome Nat :=
  if b ≤ a then .returned (a - b) else .panicked "attempt to subtract with overflow"

/-- `a + b` in `w` bits, as a debug build computes it. -/
def checkedAdd (w a b : Nat) : Outcome Nat :=
  if a + b < 2 ^ w then .returned (a + b) else .panicked "attempt to add with overflow"

/-- `sum::<u32>()`, as a debug build computes it from a first sum. -/
def checkedSumU32 : Nat → List Nat → Outcome Nat
  | sum, [] => .returned sum
  | sum, length :: rest => (checkedAdd 32 sum length).bind fun sum => checkedSumU32 sum rest

theorem checkedSub_of_le {a b : Nat} (h : b ≤ a) : checkedSub a b = .returned (a - b) := if_pos h

theorem checkedSumU32_of_lt {sum : Nat} {lengths : List Nat} (h : sum + lengths.sum < 2 ^ 32) :
    checkedSumU32 sum lengths = .returned (sum + lengths.sum) := by
  induction lengths generalizing sum with
  | nil => rfl
  | cons length rest ih =>
    rw [List.sum_cons] at h ⊢
    have hadd : checkedAdd 32 sum length = .returned (sum + length) := if_pos (by omega)
    rw [checkedSumU32, hadd, Outcome.bind_returned, ih (by omega), Nat.add_assoc]

namespace StreamRecvBuffer

/-! ## The operations with their checks -/

namespace Checked

def new (offset : Nat) (buffers : List QuicBuffer) (fin : Bool) : Outcome StreamRecvBuffer :=
  (checkedSumU32 0 (buffers.map QuicBuffer.length)).map fun len =>
    { StreamRecvBuffer.new offset buffers fin with len := len }

/-- `StreamRecvBuffer::len`. -/
def length (b : StreamRecvBuffer) : Outcome Nat :=
  if b.buffers.length ≤ b.readCursor then .returned 0
  else
    (checkedSumU32 0 ((b.buffers.take b.readCursor).map QuicBuffer.length)).bind fun passed =>
      (checkedSub b.len passed).bind fun len => checkedSub len b.readCursorInBuffer

def remaining (b : StreamRecvBuffer) : Outcome Nat := length b

/-- The slice of the cursor's segment, of at most `size` bytes. -/
def slice (buffer : QuicBuffer) (readCursorInBuffer size : Nat) : Outcome Bytes :=
  if readCursorInBuffer ≤ buffer.length then
    .returned ((buffer.bytes.drop readCursorInBuffer).take
      (min (buffer.length - readCursorInBuffer) size))
  else .panicked "assertion failed: buffer.Length as usize >= self.read_cursor_in_buffer"

def asSliceUptoSize (b : StreamRecvBuffer) (size : Nat) : Outcome Bytes :=
  match b.buffers[b.readCursor]? with
  | none => .returned []
  | some buffer => slice buffer b.readCursorInBuffer size

def getBytesUptoSize (b : StreamRecvBuffer) (size : Nat) :
    Outcome (Option (Bytes × StreamRecvBuffer)) :=
  match b.buffers[b.readCursor]? with
  | none => .returned none
  | some buffer =>
    (slice buffer b.readCursorInBuffer size).map fun slice =>
      let inBuffer := b.readCursorInBuffer + slice.length
      some (slice,
        if buffer.length ≤ inBuffer then b.withCursor (b.readCursor + 1) 0
        else b.withCursor b.readCursor inBuffer)

def range (w : Nat) (b : StreamRecvBuffer) : Outcome (Nat × Nat) :=
  (checkedAdd w b.offset b.len).map fun stop => (b.offset, stop)

def chunk (b : StreamRecvBuffer) : Outcome Bytes := (length b).bind (asSliceUptoSize b)

/-- `&self.buffers[self.read_cursor..]`. -/
def fromCursor (b : StreamRecvBuffer) : Outcome (List QuicBuffer) :=
  if b.readCursor ≤ b.buffers.length then .returned (b.buffers.drop b.readCursor)
  else .panicked "range start index out of range for slice"

def advanceLoop : List QuicBuffer → Nat → Nat → Nat → Outcome (Nat × Nat)
  | [], _, cursor, inBuffer => .returned (cursor, inBuffer)
  | buffer :: rest, count, cursor, inBuffer =>
    if count = 0 then .returned (cursor, inBuffer)
    else
      (checkedSub buffer.length inBuffer).bind fun remaining =>
        if count < remaining then .returned (cursor, inBuffer + count)
        else (checkedSub count remaining).bind fun count => advanceLoop rest count (cursor + 1) 0

def advance (b : StreamRecvBuffer) (count : Nat) : Outcome StreamRecvBuffer :=
  let move : Outcome StreamRecvBuffer :=
    (fromCursor b).bind fun buffers =>
      (advanceLoop buffers count b.readCursor b.readCursorInBuffer).map fun (cursor, inBuffer) =>
        b.withCursor cursor inBuffer
  if count = 0 then move
  else
    (remaining b).bind fun remaining =>
      if count ≤ remaining then move
      else .panicked "assertion failed: count == 0 || count <= self.remaining()"

/-- The loop of `chunks_vectored` over the segments from the cursor on; `dst` is what it has
filled of `slots` slots. -/
def chunksVectoredLoop (slots : Nat) :
    List QuicBuffer → Option Nat → List Bytes → Outcome (List Bytes)
  | [], _, dst => .returned dst
  | buffer :: rest, readCursorInBuffer, dst =>
    if dst.length < slots then
      let skip := readCursorInBuffer.getD 0
      (checkedSub buffer.length skip).bind fun length =>
        chunksVectoredLoop slots rest none (dst ++ [(buffer.bytes.drop skip).take length])
    else .returned dst

def chunksVectored (b : StreamRecvBuffer) (slots : Nat) : Outcome (List Bytes) :=
  (fromCursor b).bind fun buffers => chunksVectoredLoop slots buffers (some b.readCursorInBuffer) []

end Checked

/-! ## Where the cursor stands -/

/-- The cursor stands in a segment or behind the last one, never at the end of a segment with
bytes in it; `len` is the length of all the segments, which 32 bits can hold. -/
structure CursorOk (b : StreamRecvBuffer) : Prop where
  cursor_le : b.readCursor ≤ b.buffers.length
  inBuffer : b.readCursorInBuffer = 0 ∨
    ∃ buffer, b.buffers[b.readCursor]? = some buffer ∧ b.readCursorInBuffer < buffer.length
  len : b.len = b.content.length
  len_lt : b.len < 2 ^ 32

theorem sum_map_length (buffers : List QuicBuffer) :
    (buffers.map QuicBuffer.length).sum = (buffers.flatMap QuicBuffer.bytes).length := by
  rw [List.length_flatMap]
  rfl

namespace CursorOk

variable {b b' : StreamRecvBuffer}

theorem inBuffer_le (h : b.CursorOk) {buffer : QuicBuffer}
    (hget : b.buffers[b.readCursor]? = some buffer) : b.readCursorInBuffer ≤ buffer.length := by
  rcases h.inBuffer with h0 | ⟨x, hx, hlt⟩
  · omega
  · obtain rfl : buffer = x := Option.some.inj (hget.symm.trans hx)
    omega

/-- What lies before the cursor's segment, what the cursor has passed of it, and the rest. -/
theorem content_eq {buffer : QuicBuffer} (hget : b.buffers[b.readCursor]? = some buffer) :
    b.content = (b.buffers.take b.readCursor).flatMap QuicBuffer.bytes ++
      buffer.bytes.take b.readCursorInBuffer ++ b.unread := by
  obtain ⟨hlt, rfl⟩ := List.getElem?_eq_some_iff.mp hget
  rw [unread_of_get hget, List.append_assoc, ← List.append_assoc (List.take _ _),
    List.take_append_drop, content]
  conv_lhs => rw [← List.take_append_drop b.readCursor b.buffers, List.flatMap_append,
    List.drop_eq_getElem_cons hlt, List.flatMap_cons]

theorem length_content (h : b.CursorOk) {buffer : QuicBuffer}
    (hget : b.buffers[b.readCursor]? = some buffer) :
    b.len = ((b.buffers.take b.readCursor).map QuicBuffer.length).sum + b.readCursorInBuffer +
      b.unread.length := by
  have hle : b.readCursorInBuffer ≤ buffer.bytes.length := h.inBuffer_le hget
  rw [h.len, content_eq hget, List.length_append, List.length_append, List.length_take,
    sum_map_length]
  omega

theorem withCursor (h : b.CursorOk) {c i : Nat} (hc : c ≤ b.buffers.length)
    (hi : i = 0 ∨ ∃ buffer, b.buffers[c]? = some buffer ∧ i < buffer.length) :
    (b.withCursor c i).CursorOk :=
  ⟨hc, hi, h.len, h.len_lt⟩

theorem length_eq (h : b.CursorOk) : Checked.length b = .returned b.unread.length := by
  unfold Checked.length
  split
  · next hle => rw [unread_of_exhausted hle, List.length_nil]
  next hlt =>
    have hget := List.getElem?_eq_getElem (Nat.lt_of_not_le hlt)
    have hlen := h.length_content hget
    have hlt := h.len_lt
    rw [checkedSumU32_of_lt (by omega), Outcome.bind_returned, checkedSub_of_le (by omega),
      Outcome.bind_returned, checkedSub_of_le (by omega)]
    congr 1
    omega

/-- The unchecked arithmetic gives the same. -/
theorem remaining_eq (h : b.CursorOk) : b.remaining = b.unread.length := by
  unfold remaining length
  split
  · next hle => rw [unread_of_exhausted hle, List.length_nil]
  next hlt =>
    have hget := List.getElem?_eq_getElem (Nat.lt_of_not_le hlt)
    have hlen := h.length_content hget
    have hlt := h.len_lt
    unfold sumU32
    rw [Nat.mod_eq_of_lt (by omega)]
    omega

theorem take_prefix {buffer : QuicBuffer} (hget : b.buffers[b.readCursor]? = some buffer)
    (size : Nat) : (buffer.bytes.drop b.readCursorInBuffer).take size <+: b.unread := by
  rw [unread_of_get hget]
  exact (List.take_prefix ..).trans (List.prefix_append ..)

theorem slice_eq (h : b.CursorOk) {buffer : QuicBuffer}
    (hget : b.buffers[b.readCursor]? = some buffer) (size : Nat) :
    Checked.slice buffer b.readCursorInBuffer size =
      .returned ((buffer.bytes.drop b.readCursorInBuffer).take
        (min (buffer.length - b.readCursorInBuffer) size)) :=
  if_pos (h.inBuffer_le hget)

/-! ## The operations -/

theorem getBytesUptoSize_eq (h : b.CursorOk) (size : Nat) :
    Checked.getBytesUptoSize b size = .returned (b.getBytesUptoSize size) := by
  unfold Checked.getBytesUptoSize StreamRecvBuffer.getBytesUptoSize
  cases hget : b.buffers[b.readCursor]? with
  | none => rfl
  | some buffer =>
    have hlen : buffer.length = buffer.bytes.length := rfl
    simp only [h.slice_eq hget, Outcome.map_returned, List.length_take, List.length_drop]
    congr 6
    · omega
    · omega

theorem getBytesUptoSize_ok (h : b.CursorOk) {size : Nat} {slice : Bytes}
    (hg : b.getBytesUptoSize size = some (slice, b')) : b'.CursorOk := by
  unfold StreamRecvBuffer.getBytesUptoSize at hg
  split at hg
  · cases hg
  next buffer hget =>
    obtain ⟨hlt, -⟩ := List.getElem?_eq_some_iff.mp hget
    simp only [Option.some.injEq, Prod.mk.injEq] at hg
    obtain ⟨-, rfl⟩ := hg
    split
    · exact h.withCursor hlt (.inl rfl)
    · next hin => exact h.withCursor h.cursor_le (.inr ⟨buffer, hget, by omega⟩)

theorem chunk_eq (h : b.CursorOk) : Checked.chunk b = .returned b.chunk := by
  unfold Checked.chunk Checked.asSliceUptoSize StreamRecvBuffer.chunk StreamRecvBuffer.asSliceUptoSize
  rw [h.length_eq, Outcome.bind_returned, show b.length = b.unread.length from h.remaining_eq]
  cases hget : b.buffers[b.readCursor]? with
  | none => rfl
  | some buffer => simp only [h.slice_eq hget]

theorem chunk_prefix (b : StreamRecvBuffer) : b.chunk <+: b.unread := by
  unfold StreamRecvBuffer.chunk StreamRecvBuffer.asSliceUptoSize
  split
  · exact List.nil_prefix
  next buffer hget => exact take_prefix hget _

theorem chunk_length (h : b.CursorOk) : b.chunk.length = b.leftInSegment := by
  unfold StreamRecvBuffer.chunk StreamRecvBuffer.asSliceUptoSize leftInSegment
  rw [show b.length = b.unread.length from h.remaining_eq]
  split
  · rfl
  next buffer hget =>
    have hlen : buffer.length = buffer.bytes.length := rfl
    rw [List.length_take, List.length_drop, unread_of_get hget, List.length_append,
      List.length_drop]
    omega

end CursorOk

/-- The bytes of segments from `inBuffer` on in the first one. -/
def unreadOf (buffers : List QuicBuffer) (inBuffer : Nat) : Bytes :=
  (buffers.flatMap QuicBuffer.bytes).drop inBuffer

/-- `inBuffer` is a place in the first segment. -/
def InFirst (buffers : List QuicBuffer) (inBuffer : Nat) : Prop :=
  inBuffer = 0 ∨ ∃ buffer, buffers.head? = some buffer ∧ inBuffer < buffer.length

theorem InFirst.le {buffer : QuicBuffer} {rest : List QuicBuffer} {inBuffer : Nat}
    (h : InFirst (buffer :: rest) inBuffer) : inBuffer ≤ buffer.bytes.length := by
  rcases h with h | ⟨x, hx, hlt⟩
  · omega
  · obtain rfl : buffer = x := Option.some.inj hx
    exact Nat.le_of_lt hlt

theorem CursorOk.inFirst {b : StreamRecvBuffer} (h : b.CursorOk) :
    InFirst (b.buffers.drop b.readCursor) b.readCursorInBuffer := by
  unfold InFirst
  rw [List.head?_drop]
  exact h.inBuffer

theorem CursorOk.unread_eq {b : StreamRecvBuffer} (h : b.CursorOk) :
    b.unread = unreadOf (b.buffers.drop b.readCursor) b.readCursorInBuffer := by
  have hin := h.inFirst
  unfold unread unreadOf
  cases hd : b.buffers.drop b.readCursor with
  | nil => rw [List.flatMap_nil, List.drop_nil]
  | cons buffer rest =>
    rw [hd] at hin
    rw [List.flatMap_cons, List.drop_append_of_le_length hin.le]

/-- The loop of `advance` passes `count` bytes, and no check of it fails. -/
theorem advanceLoop_spec {buffers : List QuicBuffer} {count inBuffer : Nat} (cursor : Nat)
    (hin : InFirst buffers inBuffer) (hcount : count ≤ (unreadOf buffers inBuffer).length) :
    ∃ k i, advanceLoop buffers count cursor inBuffer = (cursor + k, i) ∧
      Checked.advanceLoop buffers count cursor inBuffer = .returned (cursor + k, i) ∧
      k ≤ buffers.length ∧ InFirst (buffers.drop k) i ∧
      unreadOf (buffers.drop k) i = (unreadOf buffers inBuffer).drop count := by
  induction buffers generalizing count cursor inBuffer with
  | nil => exact ⟨0, inBuffer, rfl, rfl, Nat.le_refl 0, hin, by simp [unreadOf]⟩
  | cons buffer rest ih =>
    have hfirst := hin.le
    have hlen : buffer.length = buffer.bytes.length := rfl
    unfold advanceLoop Checked.advanceLoop
    by_cases h0 : count = 0
    · subst h0
      exact ⟨0, inBuffer, if_pos rfl, if_pos rfl, Nat.zero_le _, hin, by simp⟩
    rw [if_neg h0, if_neg h0, checkedSub_of_le (by omega), Outcome.bind_returned]
    simp only
    by_cases hlt : count < buffer.length - inBuffer
    · -- the count ends inside this segment
      refine ⟨0, inBuffer + count, if_pos hlt, if_pos hlt, Nat.zero_le _, ?_, ?_⟩
      · exact .inr ⟨buffer, rfl, by omega⟩
      · simp only [List.drop_zero, unreadOf, List.drop_drop]
    · have hcross : (unreadOf (buffer :: rest) inBuffer).drop (buffer.length - inBuffer) =
          unreadOf rest 0 := by
        unfold unreadOf
        rw [List.flatMap_cons, List.drop_drop, List.drop_zero,
          show inBuffer + (buffer.length - inBuffer) = buffer.bytes.length by omega,
          List.drop_left]
      have hrest := congrArg List.length hcross
      rw [List.length_drop] at hrest
      obtain ⟨k, i, hloop, hchecked, hk, hin', heq⟩ :=
        @ih (count - (buffer.length - inBuffer)) 0 (cursor + 1) (.inl rfl) (by omega)
      rw [if_neg hlt, if_neg hlt, checkedSub_of_le (by omega), Outcome.bind_returned, hloop, hchecked]
      refine ⟨k + 1, i, by rw [Nat.add_right_comm, Nat.add_assoc],
        by rw [Nat.add_right_comm, Nat.add_assoc], Nat.succ_le_succ hk, hin', ?_⟩
      rw [List.drop_succ_cons, heq, ← hcross, List.drop_drop]
      congr 1
      omega

namespace CursorOk

variable {b b' : StreamRecvBuffer}

theorem advance_spec (h : b.CursorOk) {count : Nat} (hcount : count ≤ b.unread.length) :
    ∃ b', Checked.advance b count = .returned b' ∧ b.advance count = .returned b' ∧ b'.CursorOk ∧
      b'.unread = b.unread.drop count := by
  rw [h.unread_eq] at hcount ⊢
  obtain ⟨k, i, hloop, hchecked, hk, hin, heq⟩ := advanceLoop_spec b.readCursor h.inFirst hcount
  rw [List.length_drop] at hk
  rw [List.drop_drop] at hin heq
  have hle := h.cursor_le
  have hok : (b.withCursor (b.readCursor + k) i).CursorOk := by
    apply h.withCursor
    · omega
    · unfold InFirst at hin
      rwa [List.head?_drop] at hin
  refine ⟨b.withCursor (b.readCursor + k) i, ?_, ?_, hok, ?_⟩
  · have hmove : (Checked.fromCursor b).bind (fun buffers =>
        (Checked.advanceLoop buffers count b.readCursor b.readCursorInBuffer).map
          fun (cursor, inBuffer) => b.withCursor cursor inBuffer) =
        .returned (b.withCursor (b.readCursor + k) i) := by
      rw [Checked.fromCursor, if_pos hle, Outcome.bind_returned, hchecked, Outcome.map_returned]
    unfold Checked.advance
    split
    · exact hmove
    · rw [Checked.remaining, h.length_eq, Outcome.bind_returned, if_pos, hmove]
      rwa [h.unread_eq]
  · unfold StreamRecvBuffer.advance
    rw [if_pos, hloop]
    rw [h.remaining_eq, h.unread_eq]
    exact .inr hcount
  · rw [hok.unread_eq]
    exact heq

theorem chunksVectoredLoop_spec {slots : Nat} {buffers : List QuicBuffer} {skip : Option Nat}
    {dst : List Bytes} (hin : InFirst buffers (skip.getD 0)) (hdst : dst.length ≤ slots) :
    ∃ slices, Checked.chunksVectoredLoop slots buffers skip dst = .returned (dst ++ slices) ∧
      dst.length + slices.length = min slots (dst.length + buffers.length) ∧
      slices.flatten <+: unreadOf buffers (skip.getD 0) ∧
      (dst.length + buffers.length ≤ slots → slices.flatten = unreadOf buffers (skip.getD 0)) := by
  induction buffers generalizing skip dst with
  | nil =>
    refine ⟨[], by rw [List.append_nil]; rfl, ?_, List.nil_prefix, fun _ => ?_⟩
    · simp only [List.length_nil]
      omega
    · simp [unreadOf]
  | cons buffer rest ih =>
    have hfirst := hin.le
    have hlen : buffer.length = buffer.bytes.length := rfl
    have hdrop : (buffer.bytes.drop (skip.getD 0)).take (buffer.length - skip.getD 0) =
        buffer.bytes.drop (skip.getD 0) :=
      List.take_of_length_le (by rw [List.length_drop]; omega)
    have hunread : unreadOf (buffer :: rest) (skip.getD 0) =
        buffer.bytes.drop (skip.getD 0) ++ unreadOf rest 0 := by
      unfold unreadOf
      rw [List.flatMap_cons, List.drop_append_of_le_length (by omega), List.drop_zero]
    unfold Checked.chunksVectoredLoop
    split
    · next hlt =>
      obtain ⟨slices, hloop, hcount, hpre, hall⟩ := @ih none
        (dst ++ [buffer.bytes.drop (skip.getD 0)]) (.inl rfl)
        (by rw [List.length_append, List.length_singleton]; omega)
      rw [List.length_append, List.length_singleton] at hcount hall
      refine ⟨buffer.bytes.drop (skip.getD 0) :: slices, ?_, ?_, ?_, ?_⟩
      · simp only [checkedSub_of_le (show skip.getD 0 ≤ buffer.length by omega),
          Outcome.bind_returned, hdrop, hloop, List.append_assoc, List.singleton_append]
      · rw [List.length_cons, List.length_cons]
        omega
      · rw [hunread, List.flatten_cons]
        exact (List.prefix_append_right_inj _).mpr hpre
      · intro hslots
        rw [List.length_cons] at hslots
        rw [hunread, List.flatten_cons, hall (by omega)]
        rfl
    · refine ⟨[], by rw [List.append_nil], ?_, List.nil_prefix, fun hslots => ?_⟩
      · rw [List.length_nil, List.length_cons]
        omega
      · rw [List.length_cons] at hslots
        omega

/-- `chunks_vectored` with `slots` slots shows a prefix of what is unread, and all of it where
every segment from the cursor on has a slot. -/
theorem chunksVectored_spec (h : b.CursorOk) (slots : Nat) :
    ∃ slices, Checked.chunksVectored b slots = .returned slices ∧
      slices.length = min slots b.segmentsLeft ∧ slices.flatten <+: b.unread ∧
      (b.segmentsLeft ≤ slots → slices.flatten = b.unread) := by
  obtain ⟨slices, hloop, hcount, hpre, hall⟩ := @chunksVectoredLoop_spec slots
    (b.buffers.drop b.readCursor) (some b.readCursorInBuffer) [] h.inFirst (Nat.zero_le _)
  rw [List.length_nil, Nat.zero_add, Nat.zero_add, List.length_drop] at hcount
  rw [List.length_nil, Nat.zero_add, List.length_drop] at hall
  refine ⟨slices, ?_, hcount, ?_, fun hslots => ?_⟩
  · rw [Checked.chunksVectored, Checked.fromCursor, if_pos h.cursor_le, Outcome.bind_returned, hloop,
      List.nil_append]
  · rw [h.unread_eq]
    exact hpre
  · rw [h.unread_eq]
    exact hall hslots

end CursorOk

/-! ## Every history of operations -/

inductive CursorOp where
  | getBytesUptoSize (size : Nat)
  | advance (count : Nat)

inductive CursorRes where
  | bytes (r : Option Bytes)
  | unit

/-- One operation; a panic leaves the buffer alone. -/
def cursorStep (b : StreamRecvBuffer) : CursorOp → StreamRecvBuffer × Outcome CursorRes
  | .getBytesUptoSize size =>
    match Checked.getBytesUptoSize b size with
    | .returned (some (slice, b)) => (b, .returned (.bytes (some slice)))
    | .returned none => (b, .returned (.bytes none))
    | .panicked message => (b, .panicked message)
  | .advance count =>
    match Checked.advance b count with
    | .returned b => (b, .returned .unit)
    | .panicked message => (b, .panicked message)

/-- A buffer with the segments `start` was made of, moved by operations that advance within what
is left. -/
def cursorSystem (start : StreamRecvBuffer) :
    System StreamRecvBuffer CursorOp (Outcome CursorRes) where
  init b := b = start
  ok _ b
    | .getBytesUptoSize _ => True
    | .advance count => ∃ n, Checked.remaining b = .returned n ∧ count ≤ n
  next := cursorStep

abbrev CursorTrace := List (Step StreamRecvBuffer CursorOp (Outcome CursorRes))

/-- The bytes a step passes. -/
def passedBy (e : Step StreamRecvBuffer CursorOp (Outcome CursorRes)) : Nat :=
  match e.label, e.out with
  | .advance count, _ => count
  | .getBytesUptoSize _, .returned (.bytes (some slice)) => slice.length
  | _, _ => 0

def passed (tr : CursorTrace) : Nat := (tr.map passedBy).sum

/-- **One operation** returns, keeps the cursor in order and takes what it passes off the front. -/
theorem cursorStep_spec {start b : StreamRecvBuffer} {op : CursorOp} {tr : CursorTrace}
    (h : b.CursorOk) (hok : (cursorSystem start).ok tr b op) :
    (∃ r, (cursorStep b op).2 = .returned r) ∧ (cursorStep b op).1.CursorOk ∧
      (∃ c i, (cursorStep b op).1 = b.withCursor c i) ∧
      (cursorStep b op).1.unread = b.unread.drop (passedBy ((cursorSystem start).take b op)) := by
  cases op with
  | getBytesUptoSize size =>
    have heq := h.getBytesUptoSize_eq size
    cases hg : b.getBytesUptoSize size with
    | none =>
      rw [hg] at heq
      simp only [cursorStep, heq]
      exact ⟨⟨_, rfl⟩, h, ⟨_, _, rfl⟩, by
        simp only [passedBy, System.take, cursorSystem, cursorStep, heq, List.drop_zero]⟩
    | some p =>
      obtain ⟨slice, b'⟩ := p
      rw [hg] at heq
      simp only [cursorStep, heq]
      refine ⟨⟨_, rfl⟩, h.getBytesUptoSize_ok hg, getBytesUptoSize_cursor hg, ?_⟩
      simp only [passedBy, System.take, cursorSystem, cursorStep, heq,
        (getBytesUptoSize_unread hg).1, List.drop_left]
  | advance count =>
    obtain ⟨n, hn, hle⟩ := hok
    rw [Checked.remaining, h.length_eq] at hn
    obtain rfl := Outcome.returned.inj hn
    obtain ⟨b', hchecked, hmodel, hb', hunread⟩ := h.advance_spec hle
    simp only [cursorStep, hchecked]
    exact ⟨⟨_, rfl⟩, hb', advance_cursor hmodel, hunread⟩

theorem Checked.new_eq {offset : Nat} {buffers : List QuicBuffer} {fin : Bool}
    (h : (buffers.flatMap QuicBuffer.bytes).length < 2 ^ 32) :
    Checked.new offset buffers fin = .returned (StreamRecvBuffer.new offset buffers fin) := by
  rw [← sum_map_length] at h
  rw [Checked.new, checkedSumU32_of_lt (by omega), Outcome.map_returned, StreamRecvBuffer.new,
    sumU32, Nat.mod_eq_of_lt h, Nat.zero_add]

theorem cursorOk_new {offset : Nat} {buffers : List QuicBuffer} {fin : Bool}
    (h : (buffers.flatMap QuicBuffer.bytes).length < 2 ^ 32) :
    (new offset buffers fin).CursorOk where
  cursor_le := Nat.zero_le _
  inBuffer := .inl rfl
  len := by rw [len_new, Nat.mod_eq_of_lt h]; rfl
  len_lt := by rw [len_new]; omega

/-- After every history the cursor is in order, nothing else has moved, and what is unread is what
the history has not passed. -/
theorem cursor_run {start b : StreamRecvBuffer} {tr : CursorTrace} (hstart : start.CursorOk)
    (h : (cursorSystem start).Run tr b) :
    b.CursorOk ∧ (∃ c i, b = start.withCursor c i) ∧ b.unread = start.unread.drop (passed tr) := by
  refine h.invariant (I := fun tr b => b.CursorOk ∧ (∃ c i, b = start.withCursor c i) ∧
    b.unread = start.unread.drop (passed tr)) ?_ ?_
  · rintro b rfl
    exact ⟨hstart, ⟨_, _, rfl⟩, rfl⟩
  · rintro tr b op - hok ⟨hb, ⟨c, i, rfl⟩, hunread⟩
    obtain ⟨-, hb', ⟨c', i', hcursor⟩, hdrop⟩ := cursorStep_spec hb hok
    refine ⟨hb', ⟨c', i', hcursor⟩, ?_⟩
    show (cursorStep (start.withCursor c i) op).1.unread = _
    rw [hdrop, hunread, List.drop_drop, passed, passed, List.map_cons, List.sum_cons, Nat.add_comm]

/-- What a cursor over the content of `start` answers after passing `n` bytes of it. -/
structure CursorLaw (start b : StreamRecvBuffer) (n : Nat) : Prop where
  unread : b.unread = start.content.drop n
  len : Checked.length b = .returned b.unread.length
  remaining : Checked.remaining b = .returned b.unread.length
  getBytes : ∀ size,
    (∃ slice b', Checked.getBytesUptoSize b size = .returned (some (slice, b')) ∧
      slice.length = min b.leftInSegment size ∧ b.unread = slice ++ b'.unread ∧
      (b'.segmentsLeft < b.segmentsLeft ∨ slice.length = size)) ∨
    (Checked.getBytesUptoSize b size = .returned none ∧ b.unread = [])
  advance : ∀ count ≤ b.unread.length,
    ∃ b', Checked.advance b count = .returned b' ∧ b'.unread = b.unread.drop count
  chunk : ∃ chunk, Checked.chunk b = .returned chunk ∧ chunk <+: b.unread ∧
    chunk.length = b.leftInSegment
  vectored : ∀ slots, ∃ slices, Checked.chunksVectored b slots = .returned slices ∧
    slices.length ≤ slots ∧ slices.flatten <+: b.unread ∧
    (b.segmentsLeft ≤ slots → slices.flatten = b.unread)
  range : ∀ w, Checked.range w b = Checked.range w start
  /-- The cursors stay within the lengths they index, so moving them does not overflow. -/
  inRange : b.readCursor ≤ b.buffers.length ∧ b.readCursorInBuffer < 2 ^ 32

theorem CursorOk.inBuffer_lt {b : StreamRecvBuffer} (h : b.CursorOk) :
    b.readCursorInBuffer < 2 ^ 32 := by
  rcases h.inBuffer with h0 | ⟨buffer, -, hlt⟩
  · rw [h0]
    exact Nat.two_pow_pos 32
  · have := buffer.length_lt
    unfold QuicBuffer.length at hlt
    omega

theorem CursorOk.law {start b : StreamRecvBuffer} {n : Nat} (h : b.CursorOk)
    (hcursor : ∃ c i, b = start.withCursor c i) (hunread : b.unread = start.content.drop n) :
    CursorLaw start b n where
  unread := hunread
  len := h.length_eq
  remaining := h.length_eq
  getBytes size := by
    rw [h.getBytesUptoSize_eq]
    cases hg : b.getBytesUptoSize size with
    | none => exact .inr ⟨rfl, getBytesUptoSize_none hg⟩
    | some p =>
      obtain ⟨slice, b'⟩ := p
      exact .inl ⟨_, _, rfl, getBytesUptoSize_length hg, (getBytesUptoSize_unread hg).1,
        (getBytesUptoSize_progress hg).imp id And.right⟩
  advance count hle := by
    obtain ⟨b', hchecked, -, -, heq⟩ := h.advance_spec hle
    exact ⟨b', hchecked, heq⟩
  chunk := ⟨_, h.chunk_eq, chunk_prefix b, h.chunk_length⟩
  vectored slots := by
    obtain ⟨slices, heq, hlen, hpre, hall⟩ := h.chunksVectored_spec slots
    exact ⟨slices, heq, hlen ▸ Nat.min_le_left .., hpre, hall⟩
  range w := by
    obtain ⟨c, i, rfl⟩ := hcursor
    rfl
  inRange := ⟨h.cursor_le, h.inBuffer_lt⟩

/-- **A receive buffer is a cursor over the concatenation of its segments**, through every history
of reads and of advances within what is left, and nothing panics. -/
theorem cursor_over_concatenation (offset : Nat) {segments : List QuicBuffer} (fin : Bool)
    (hlen : (segments.flatMap QuicBuffer.bytes).length < 2 ^ 32) :
    ∃ start, Checked.new offset segments fin = .returned start ∧
      start.content = segments.flatMap QuicBuffer.bytes ∧
      ∀ {tr b}, (cursorSystem start).Run tr b →
        (∀ e ∈ tr, ∃ r, e.out = .returned r) ∧ CursorLaw start b (passed tr) := by
  have hstart : (new offset segments fin).CursorOk := cursorOk_new hlen
  refine ⟨_, Checked.new_eq hlen, rfl, fun {tr b} h => ⟨fun e he => ?_, ?_⟩⟩
  · obtain ⟨tr', hr, hok, heq⟩ := h.of_mem he
    rw [heq]
    exact (cursorStep_spec (cursor_run hstart hr).1 hok).1
  · obtain ⟨hb, hcursor, hunread⟩ := cursor_run hstart h
    rw [unread_new] at hunread
    exact hb.law hcursor hunread

/-- Three segments, the second one empty. -/
theorem cursor_over_three_segments :
    let segments := [QuicBuffer.ofSlice [1, 2], .ofSlice [], .ofSlice [3, 4, 5]]
    ∃ start, Checked.new 7 segments false = .returned start ∧ start.content = [1, 2, 3, 4, 5] ∧
      ∀ {tr b}, (cursorSystem start).Run tr b →
        (∀ e ∈ tr, ∃ r, e.out = .returned r) ∧ CursorLaw start b (passed tr) :=
  cursor_over_concatenation 7 false (by decide)

end StreamRecvBuffer

end MsquicAsync
