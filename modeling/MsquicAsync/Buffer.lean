import MsquicAsync.Sync
import MsquicAsync.Msquic

/-!
# Receive and write buffers

`StreamRecvBuffer` is the memory of one Receive event with a cursor over it: the
segment `readCursor` and the offset `readCursorInBuffer` inside it. `usize` has
`w` bits and sums wrap, as in a release build; differences stop at zero, which
they do not pass while an event has less than `2 ^ 32` bytes (`CursorOk.length_eq`).
`unread` is what the cursor has not passed; the operations take it apart from the
front.

`WriteBuffer` is the boxed buffer of one send, named by its address `ptr`.
-/

namespace MsquicAsync

/-! ## Receive buffers -/

structure StreamRecvBuffer where
  /-- Whether `set_stream` has been called: only then does a drop complete the buffer. -/
  stream : Bool
  buffers : List QuicBuffer
  offset : Nat
  len : Nat
  readCursor : Nat
  readCursorInBuffer : Nat
  fin : Bool
  deriving DecidableEq

namespace StreamRecvBuffer

/-- `offset` is already a `usize`; the lengths are summed as `u32`. -/
def new (offset : Nat) (buffers : List QuicBuffer) (fin : Bool) : StreamRecvBuffer where
  stream := false
  buffers := buffers
  offset := offset
  len := sumU32 (buffers.map QuicBuffer.length)
  readCursor := 0
  readCursorInBuffer := 0
  fin := fin

def setStream (b : StreamRecvBuffer) : StreamRecvBuffer := { b with stream := true }

def withCursor (b : StreamRecvBuffer) (cursor inBuffer : Nat) : StreamRecvBuffer :=
  { b with readCursor := cursor, readCursorInBuffer := inBuffer }

/-- `StreamRecvBuffer::len`: the bytes the cursor has not passed. -/
def length (b : StreamRecvBuffer) : Nat :=
  if b.buffers.length ≤ b.readCursor then 0
  else b.len - sumU32 ((b.buffers.take b.readCursor).map QuicBuffer.length) - b.readCursorInBuffer

def isEmpty (b : StreamRecvBuffer) : Bool := b.length == 0

def asSliceUptoSize (b : StreamRecvBuffer) (size : Nat) : Bytes :=
  match b.buffers[b.readCursor]? with
  | none => []
  | some buffer =>
    let len := min (buffer.length - b.readCursorInBuffer) size
    (buffer.bytes.drop b.readCursorInBuffer).take len

def getBytesUptoSize (b : StreamRecvBuffer) (size : Nat) : Option (Bytes × StreamRecvBuffer) :=
  match b.buffers[b.readCursor]? with
  | none => none
  | some buffer =>
    let len := min (buffer.length - b.readCursorInBuffer) size
    let slice := (buffer.bytes.drop b.readCursorInBuffer).take len
    some (slice,
      if buffer.length ≤ b.readCursorInBuffer + len then b.withCursor (b.readCursor + 1) 0
      else b.withCursor b.readCursor (b.readCursorInBuffer + len))

/-- `StreamRecvBuffer::range`, start and end. -/
def range (w : Nat) (b : StreamRecvBuffer) : Nat × Nat := (b.offset, (b.offset + b.len) % 2 ^ w)

def remaining (b : StreamRecvBuffer) : Nat := b.length

def chunk (b : StreamRecvBuffer) : Bytes := b.asSliceUptoSize b.length

/-- The loop of `advance` over the segments from the cursor on. -/
def advanceLoop : List QuicBuffer → Nat → Nat → Nat → Nat × Nat
  | [], _, cursor, inBuffer => (cursor, inBuffer)
  | buffer :: rest, count, cursor, inBuffer =>
    if count = 0 then (cursor, inBuffer)
    else
      let remaining := buffer.length - inBuffer
      if count < remaining then (cursor, inBuffer + count)
      else advanceLoop rest (count - remaining) (cursor + 1) 0

def advance (b : StreamRecvBuffer) (count : Nat) : Outcome StreamRecvBuffer :=
  if count = 0 ∨ count ≤ b.remaining then
    let (cursor, inBuffer) :=
      advanceLoop (b.buffers.drop b.readCursor) count b.readCursor b.readCursorInBuffer
    .returned (b.withCursor cursor inBuffer)
  else .panicked "assertion failed: count == 0 || count <= self.remaining()"

/-- The slices `chunks_vectored` puts into a destination of `slots` slots. -/
def chunksVectored (b : StreamRecvBuffer) (slots : Nat) : List Bytes :=
  match b.buffers.drop b.readCursor with
  | [] => []
  | buffer :: rest =>
    (buffer.bytes.drop b.readCursorInBuffer :: rest.map QuicBuffer.bytes).take slots

section

variable (b : StreamRecvBuffer) (c i : Nat)

@[simp] theorem withCursor_stream : (b.withCursor c i).stream = b.stream := rfl
@[simp] theorem withCursor_buffers : (b.withCursor c i).buffers = b.buffers := rfl
@[simp] theorem withCursor_offset : (b.withCursor c i).offset = b.offset := rfl
@[simp] theorem withCursor_len : (b.withCursor c i).len = b.len := rfl
@[simp] theorem withCursor_fin : (b.withCursor c i).fin = b.fin := rfl
@[simp] theorem setStream_stream : b.setStream.stream = true := rfl
@[simp] theorem setStream_buffers : b.setStream.buffers = b.buffers := rfl
@[simp] theorem setStream_offset : b.setStream.offset = b.offset := rfl
@[simp] theorem setStream_len : b.setStream.len = b.len := rfl
@[simp] theorem setStream_fin : b.setStream.fin = b.fin := rfl

end

/-- The buffer as its Receive event made it. -/
def rewound (b : StreamRecvBuffer) : StreamRecvBuffer :=
  { b with stream := false, readCursor := 0, readCursorInBuffer := 0 }

@[simp] theorem rewound_offset (b : StreamRecvBuffer) : b.rewound.offset = b.offset := rfl
@[simp] theorem rewound_len (b : StreamRecvBuffer) : b.rewound.len = b.len := rfl
@[simp] theorem rewound_fin (b : StreamRecvBuffer) : b.rewound.fin = b.fin := rfl
@[simp] theorem rewound_buffers (b : StreamRecvBuffer) : b.rewound.buffers = b.buffers := rfl
@[simp] theorem rewound_range (w : Nat) (b : StreamRecvBuffer) : b.rewound.range w = b.range w :=
  rfl
@[simp] theorem rewound_setStream (b : StreamRecvBuffer) : b.setStream.rewound = b.rewound := rfl
@[simp] theorem rewound_withCursor (b : StreamRecvBuffer) (c i : Nat) :
    (b.withCursor c i).rewound = b.rewound := rfl
@[simp] theorem rewound_new (offset : Nat) (buffers : List QuicBuffer) (fin : Bool) :
    (new offset buffers fin).rewound = new offset buffers fin := rfl

/-- All the bytes of the Receive event. -/
def content (b : StreamRecvBuffer) : Bytes := b.buffers.flatMap QuicBuffer.bytes

@[simp] theorem content_rewound (b : StreamRecvBuffer) : b.rewound.content = b.content := rfl

/-- The lengths are summed in 32 bits. -/
theorem len_new (offset : Nat) (buffers : List QuicBuffer) (fin : Bool) :
    (new offset buffers fin).len = (buffers.flatMap QuicBuffer.bytes).length % 2 ^ 32 := by
  simp only [new, sumU32, List.length_flatMap]
  rfl

theorem len_rewound_le {b : StreamRecvBuffer} {offset : Nat} {buffers : List QuicBuffer} {fin : Bool}
    (h : new offset buffers fin = b.rewound) : b.len ≤ b.content.length := by
  have hlen := congrArg StreamRecvBuffer.len h
  have hcontent := congrArg StreamRecvBuffer.content h
  rw [len_new] at hlen
  rw [content_rewound] at hcontent
  rw [← rewound_len, ← hlen, ← hcontent]
  exact Nat.mod_le _ _

/-- The byte at stream offset `p` belongs to the buffer. -/
def Covers (b : StreamRecvBuffer) (p : Nat) : Prop :=
  b.offset ≤ p ∧ p < b.offset + b.content.length

/-- The bytes the cursor has not passed. -/
def unread (b : StreamRecvBuffer) : Bytes :=
  match b.buffers.drop b.readCursor with
  | [] => []
  | buffer :: rest => buffer.bytes.drop b.readCursorInBuffer ++ rest.flatMap QuicBuffer.bytes

@[simp] theorem unread_setStream (b : StreamRecvBuffer) : b.setStream.unread = b.unread := rfl

@[simp] theorem unread_new (offset : Nat) (buffers : List QuicBuffer) (fin : Bool) :
    (new offset buffers fin).unread = buffers.flatMap QuicBuffer.bytes := by
  cases buffers <;> simp [unread, new]

theorem unread_of_exhausted {b : StreamRecvBuffer} (h : b.buffers.length ≤ b.readCursor) :
    b.unread = [] := by
  simp [unread, List.drop_eq_nil_of_le h]

theorem unread_of_get {b : StreamRecvBuffer} {buffer : QuicBuffer}
    (h : b.buffers[b.readCursor]? = some buffer) :
    b.unread = buffer.bytes.drop b.readCursorInBuffer ++
      (b.buffers.drop (b.readCursor + 1)).flatMap QuicBuffer.bytes := by
  obtain ⟨hlt, hget⟩ := List.getElem?_eq_some_iff.mp h
  simp only [unread, List.drop_eq_getElem_cons hlt, hget]

theorem unread_withCursor_zero (b : StreamRecvBuffer) (c : Nat) :
    (b.withCursor c 0).unread = (b.buffers.drop c).flatMap QuicBuffer.bytes := by
  simp only [unread, withCursor]
  cases b.buffers.drop c <;> simp

theorem unread_of_content_nil {b : StreamRecvBuffer} (h : b.content = []) : b.unread = [] := by
  have hall : ∀ x ∈ b.buffers, x.bytes = [] := List.flatMap_eq_nil_iff.mp h
  unfold unread
  split
  · rfl
  · next buffer rest hd =>
    have hmem : ∀ x ∈ buffer :: rest, x.bytes = [] := fun x hx =>
      hall x (List.mem_of_mem_drop (hd ▸ hx))
    rw [hmem buffer List.mem_cons_self, List.drop_nil, List.nil_append]
    exact List.flatMap_eq_nil_iff.mpr fun x hx => hmem x (List.mem_cons_of_mem _ hx)

/-! ### One read -/

theorem getBytesUptoSize_none {b : StreamRecvBuffer} {size : Nat}
    (h : b.getBytesUptoSize size = none) : b.unread = [] := by
  unfold getBytesUptoSize at h
  split at h
  · next hn => exact unread_of_exhausted (List.getElem?_eq_none_iff.mp hn)
  · cases h

theorem getBytesUptoSize_cursor {b b' : StreamRecvBuffer} {size : Nat} {slice : Bytes}
    (h : b.getBytesUptoSize size = some (slice, b')) :
    ∃ c i, b' = b.withCursor c i := by
  unfold getBytesUptoSize at h
  split at h
  · cases h
  · simp only [Option.some.injEq, Prod.mk.injEq] at h
    obtain ⟨-, rfl⟩ := h
    split
    · exact ⟨_, _, rfl⟩
    · exact ⟨_, _, rfl⟩

theorem getBytesUptoSize_buffers {b b' : StreamRecvBuffer} {size : Nat} {slice : Bytes}
    (h : b.getBytesUptoSize size = some (slice, b')) : b'.buffers = b.buffers := by
  obtain ⟨c, i, rfl⟩ := getBytesUptoSize_cursor h
  rfl

theorem getBytesUptoSize_rewound {b b' : StreamRecvBuffer} {size : Nat} {slice : Bytes}
    (h : b.getBytesUptoSize size = some (slice, b')) : b'.rewound = b.rewound := by
  obtain ⟨c, i, rfl⟩ := getBytesUptoSize_cursor h
  rfl

/-- A read takes a prefix of the unread bytes, of at most `size` bytes. -/
theorem getBytesUptoSize_unread {b b' : StreamRecvBuffer} {size : Nat} {slice : Bytes}
    (h : b.getBytesUptoSize size = some (slice, b')) :
    b.unread = slice ++ b'.unread ∧ slice.length ≤ size := by
  unfold getBytesUptoSize at h
  split at h
  · cases h
  next buffer hget =>
    simp only [Option.some.injEq, Prod.mk.injEq] at h
    obtain ⟨rfl, rfl⟩ := h
    refine ⟨?_, by simp only [List.length_take]; omega⟩
    rw [unread_of_get hget]
    have hlen : buffer.length = buffer.bytes.length := rfl
    split
    · -- the segment is used up: the slice is all that was left of it
      next hle =>
      rw [unread_withCursor_zero, List.take_of_length_le]
      simp only [List.length_drop]
      omega
    · next hle =>
      have hrest := unread_of_get (b := b.withCursor b.readCursor
        (b.readCursorInBuffer + min (buffer.length - b.readCursorInBuffer) size)) hget
      rw [hrest]
      simp only [withCursor, ← List.append_assoc]
      have hdrop : ∀ m, buffer.bytes.drop (b.readCursorInBuffer + m) =
          (buffer.bytes.drop b.readCursorInBuffer).drop m := fun m => List.drop_drop.symm
      rw [hdrop, List.take_append_drop]

/-- What a read leaves to do: whole segments to go. -/
def segmentsLeft (b : StreamRecvBuffer) : Nat := b.buffers.length - b.readCursor

/-- The bytes of the cursor's segment that it has not passed. -/
def leftInSegment (b : StreamRecvBuffer) : Nat :=
  match b.buffers[b.readCursor]? with
  | none => 0
  | some buffer => buffer.length - b.readCursorInBuffer

theorem leftInSegment_of_get {b : StreamRecvBuffer} {buffer : QuicBuffer}
    (h : b.buffers[b.readCursor]? = some buffer) :
    b.leftInSegment = buffer.length - b.readCursorInBuffer := by
  rw [leftInSegment, h]

theorem getBytesUptoSize_length {b b' : StreamRecvBuffer} {size : Nat} {slice : Bytes}
    (h : b.getBytesUptoSize size = some (slice, b')) : slice.length = min b.leftInSegment size := by
  unfold getBytesUptoSize at h
  split at h
  · cases h
  next buffer hget =>
    have hlen : buffer.length = buffer.bytes.length := rfl
    simp only [Option.some.injEq, Prod.mk.injEq] at h
    rw [← h.1, leftInSegment_of_get hget, List.length_take, List.length_drop]
    omega

/-- A read finishes a segment or fills the destination. -/
theorem getBytesUptoSize_progress {b b' : StreamRecvBuffer} {size : Nat} {slice : Bytes}
    (h : b.getBytesUptoSize size = some (slice, b')) :
    b'.segmentsLeft < b.segmentsLeft ∨ (b'.segmentsLeft = b.segmentsLeft ∧ slice.length = size) := by
  unfold getBytesUptoSize at h
  split at h
  · cases h
  next buffer hget =>
    obtain ⟨hlt, -⟩ := List.getElem?_eq_some_iff.mp hget
    simp only [Option.some.injEq, Prod.mk.injEq] at h
    obtain ⟨rfl, rfl⟩ := h
    have hlen : buffer.length = buffer.bytes.length := rfl
    split
    · left; simp only [segmentsLeft, withCursor]; omega
    · right
      refine ⟨rfl, ?_⟩
      simp only [List.length_take, List.length_drop]
      omega

/-- The cursor stands before the end of its segment. -/
def Normal (b : StreamRecvBuffer) : Prop :=
  ∀ buffer, b.buffers[b.readCursor]? = some buffer → b.readCursorInBuffer < buffer.length

theorem normal_new {offset : Nat} {buffers : List QuicBuffer} {fin : Bool}
    (h : ∀ x ∈ buffers, x.bytes ≠ []) : (new offset buffers fin).Normal := by
  intro buffer hb
  exact List.length_pos_of_ne_nil (h _ (List.mem_of_getElem? hb))

theorem normal_getBytesUptoSize {b b' : StreamRecvBuffer} {size : Nat} {slice : Bytes}
    (h : b.getBytesUptoSize size = some (slice, b')) (hne : ∀ x ∈ b.buffers, x.bytes ≠ []) :
    b'.Normal := by
  unfold StreamRecvBuffer.getBytesUptoSize at h
  split at h
  · cases h
  next buffer hget =>
    simp only [Option.some.injEq, Prod.mk.injEq] at h
    obtain ⟨-, rfl⟩ := h
    split
    · intro x hx
      exact List.length_pos_of_ne_nil (hne x (List.mem_of_getElem? hx))
    · next hlt =>
      intro x hx
      simp only [withCursor, hget, Option.some.injEq] at hx
      subst hx
      simp only [withCursor]
      omega

theorem Normal.slice_ne_nil {b b' : StreamRecvBuffer} {size : Nat} {slice : Bytes} (hb : b.Normal)
    (h : b.getBytesUptoSize size = some (slice, b')) (hs : 0 < size) : slice ≠ [] := by
  unfold StreamRecvBuffer.getBytesUptoSize at h
  split at h
  · cases h
  next buffer hget =>
    simp only [Option.some.injEq, Prod.mk.injEq] at h
    obtain ⟨rfl, -⟩ := h
    have := hb buffer hget
    have hlen : buffer.length = buffer.bytes.length := rfl
    apply List.ne_nil_of_length_pos
    simp only [List.length_take, List.length_drop]
    omega

theorem advance_cursor {b b' : StreamRecvBuffer} {count : Nat}
    (h : b.advance count = .returned b') : ∃ c i, b' = b.withCursor c i := by
  unfold advance at h
  split at h
  · simp only [Outcome.returned.injEq] at h
    exact ⟨_, _, h.symm⟩
  · cases h

end StreamRecvBuffer

/-! ## Write buffers -/

structure WriteBuffer where
  /-- The address of the box. -/
  ptr : Nat
  /-- Copied bytes. -/
  internal : Bytes
  /-- Shared chunks, sent without a copy. -/
  zerocopy : List Bytes
  buffers : List QuicBuffer
  deriving DecidableEq

namespace WriteBuffer

/-- `ptr` is the address the allocator returns. -/
def new (ptr : Nat) : WriteBuffer := ⟨ptr, [], [], []⟩

def putZerocopy (b : WriteBuffer) (buf : Bytes) : WriteBuffer × Nat :=
  ({ b with zerocopy := b.zerocopy ++ [buf] }, buf.length)

def putSlice (b : WriteBuffer) (slice : Bytes) : WriteBuffer × Nat :=
  ({ b with internal := b.internal ++ slice }, slice.length)

/-- Fill `buffers` with what is to be sent; the chunks go before the copied bytes. -/
def getBuffers (b : WriteBuffer) : WriteBuffer × List QuicBuffer :=
  let b :=
    if !b.zerocopy.isEmpty then { b with buffers := b.buffers ++ b.zerocopy.map QuicBuffer.ofSlice }
    else { b with buffers := b.buffers ++ [QuicBuffer.ofSlice b.internal] }
  (b, b.buffers)

def reset (b : WriteBuffer) : WriteBuffer := { b with internal := [], zerocopy := [], buffers := [] }

/-- The top of a pool, or a new buffer when the pool is empty. A pool is a stack. -/
def popPool (pool : List WriteBuffer) (fresh : Nat) : WriteBuffer × List WriteBuffer :=
  match pool with
  | [] => (new fresh, [])
  | b :: rest => (b, rest)

/-- `WriteBuffer::from_raw`: take the box at an address out of the raw ones. -/
def fromRaw : List WriteBuffer → Nat → Option (WriteBuffer × List WriteBuffer)
  | [], _ => none
  | b :: raw, ptr =>
    if b.ptr = ptr then some (b, raw)
    else (fromRaw raw ptr).map fun (b', raw') => (b', b :: raw')

theorem fromRaw_perm {raw raw' : List WriteBuffer} {ptr : Nat} {b : WriteBuffer}
    (h : fromRaw raw ptr = some (b, raw')) : b.ptr = ptr ∧ raw.Perm (b :: raw') := by
  induction raw generalizing raw' with
  | nil => cases h
  | cons a raw ih =>
    simp only [fromRaw] at h
    split at h
    · next hp =>
      simp only [Option.some.injEq, Prod.mk.injEq] at h
      obtain ⟨rfl, rfl⟩ := h
      exact ⟨hp, List.Perm.refl _⟩
    · simp only [Option.map_eq_some_iff, Prod.exists, Prod.mk.injEq] at h
      obtain ⟨b', raw'', hr, rfl, rfl⟩ := h
      obtain ⟨hb, hperm⟩ := ih hr
      exact ⟨hb, (hperm.cons a).trans (List.Perm.swap ..)⟩

theorem exists_fromRaw {raw : List WriteBuffer} {ptr : Nat} (h : ∃ b ∈ raw, b.ptr = ptr) :
    ∃ b raw', fromRaw raw ptr = some (b, raw') := by
  induction raw with
  | nil => simp at h
  | cons a raw ih =>
    simp only [fromRaw]
    split
    · exact ⟨_, _, rfl⟩
    · next hp =>
      obtain ⟨b, hb, hbp⟩ := h
      rcases List.mem_cons.mp hb with rfl | hb
      · exact absurd hbp hp
      · obtain ⟨b', raw', hr⟩ := ih ⟨b, hb, hbp⟩
        exact ⟨b', a :: raw', by simp [hr]⟩

/-- Nothing of an earlier use is left. -/
def Empty (b : WriteBuffer) : Prop := b.internal = [] ∧ b.zerocopy = [] ∧ b.buffers = []

theorem empty_new (ptr : Nat) : (new ptr).Empty := ⟨rfl, rfl, rfl⟩

theorem empty_reset (b : WriteBuffer) : b.reset.Empty := ⟨rfl, rfl, rfl⟩

@[simp] theorem new_ptr (ptr : Nat) : (new ptr).ptr = ptr := rfl
@[simp] theorem reset_ptr (b : WriteBuffer) : b.reset.ptr = b.ptr := rfl
@[simp] theorem putZerocopy_ptr (b : WriteBuffer) (buf : Bytes) : (b.putZerocopy buf).1.ptr = b.ptr :=
  rfl
@[simp] theorem putSlice_ptr (b : WriteBuffer) (s : Bytes) : (b.putSlice s).1.ptr = b.ptr := rfl

@[simp] theorem getBuffers_ptr (b : WriteBuffer) : b.getBuffers.1.ptr = b.ptr := by
  unfold getBuffers; simp only; split <;> rfl

end WriteBuffer

end MsquicAsync
