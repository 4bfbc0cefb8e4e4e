import MsquicAsync.Lib.Lending
import MsquicAsync.Buffer

/-!
# What a send does to the write buffers

A stream and a connection send alike: take a box from the pool, fill it, lend it
to MsQuic, and take it back at once if MsQuic refuses it. `BoxStep` says what a
critical section does to the boxes, one case for each way a box moves. Seen as a
ledger (`BoxStep.moves`) every box is kept or lent, and seen from the pool
(`BoxStep.empty`) it comes back empty, so that what MsQuic reads is what was put
in for this send (`Fills`).
-/

namespace MsquicAsync

open Lending

/-- A native send: what MsQuic reads, the box it is lent, and its answer. -/
structure Sent where
  buffers : List QuicBuffer
  box : WriteBuffer
  result : NativeResult

namespace Sent

/-- The bytes MsQuic is handed. -/
def payload (m : Sent) : Bytes := m.buffers.flatMap QuicBuffer.bytes

/-- MsQuic has not taken the box. -/
def refused (m : Sent) : Bool :=
  match m.result with
  | .ok () => false
  | .error _ => true

end Sent

/-- The write buffers of a stream or a connection. -/
structure Boxes where
  pool : List WriteBuffer
  native : List WriteBuffer

namespace Boxes

/-- The boxes by their addresses: the pool keeps them, MsQuic is lent them. -/
def ledger (x : Boxes) : Ledger Nat := ⟨x.pool.map WriteBuffer.ptr, x.native.map WriteBuffer.ptr⟩

/-- The addresses a critical section that sends `sent` allocates. -/
def made (x : Boxes) (sent : List Sent) : List Nat :=
  if x.pool.isEmpty then sent.map fun m => m.box.ptr else []

end Boxes

/-- The addresses a critical section takes back: of the boxes MsQuic has refused, and of the
one whose send it has completed. -/
def takenBack (sent : List Sent) (completes : Option Nat) : List Nat :=
  (sent.filter Sent.refused).map (fun m => m.box.ptr) ++ completes.toList

/-- What a critical section does to the boxes; a new one is allocated at `fresh`. -/
inductive BoxStep (x : Boxes) : Option Nat → List Sent → Option Nat → Boxes → Prop where
  | idle (fresh : Option Nat) : BoxStep x fresh [] none x
  | accepted {fresh : Nat} {m : Sent} (hp : m.box.ptr = (WriteBuffer.popPool x.pool fresh).1.ptr)
      (hr : m.refused = false) :
      BoxStep x (some fresh) [m] none
        ⟨(WriteBuffer.popPool x.pool fresh).2, x.native ++ [m.box]⟩
  | refused {fresh : Nat} {m : Sent} (hp : m.box.ptr = (WriteBuffer.popPool x.pool fresh).1.ptr)
      (hr : m.refused = true) :
      BoxStep x (some fresh) [m] none
        ⟨m.box.reset :: (WriteBuffer.popPool x.pool fresh).2, x.native⟩
  | completed {ptr : Nat} {b : WriteBuffer} {native : List WriteBuffer}
      (h : WriteBuffer.fromRaw x.native ptr = some (b, native)) :
      BoxStep x none [] (some ptr) ⟨b.reset :: x.pool, native⟩

namespace BoxStep

variable {x y : Boxes} {fresh completes : Option Nat} {sent : List Sent}

theorem moves (h : BoxStep x fresh sent completes y) :
    Moves x.ledger y.ledger (x.made sent) (sent.map fun m => m.box.ptr)
      (takenBack sent completes) := by
  obtain ⟨pool, native⟩ := x
  cases h with
  | idle =>
    have hmade : (Boxes.mk pool native).made [] = [] := by simp [Boxes.made]
    rw [hmade]
    exact .refl _
  | @accepted fresh m hp hr =>
    have htaken : takenBack [m] none = [] := by simp [takenBack, hr]
    rw [htaken]
    cases pool with
    | nil =>
      simp only [Boxes.ledger, List.map_append]
      exact .lend_new
    | cons b pool =>
      have hb : m.box.ptr = b.ptr := hp
      simp only [Boxes.ledger, List.map_append, List.map_cons, List.map_nil, hb]
      exact .lend
  | @refused fresh m hp hr =>
    have htaken : takenBack [m] none = [m.box.ptr] := by simp [takenBack, hr]
    rw [htaken]
    cases pool with
    | nil => exact .refuse_new
    | cons b pool =>
      have hb : m.box.ptr = b.ptr := hp
      simp only [Boxes.ledger, WriteBuffer.popPool, List.map_cons, List.map_nil,
        WriteBuffer.reset_ptr, hb]
      exact .refuse _
  | @completed ptr b native' hf =>
    obtain ⟨rfl, hperm⟩ := WriteBuffer.fromRaw_perm hf
    have hmade : (Boxes.mk pool native).made [] = [] := by simp [Boxes.made]
    rw [hmade]
    exact .take_back (hperm.map WriteBuffer.ptr)

theorem made_eq (h : BoxStep x fresh sent completes y) :
    x.made sent = [] ∨ ∃ a, fresh = some a ∧ x.made sent = [a] := by
  obtain ⟨pool, native⟩ := x
  cases h with
  | idle | completed => exact .inl (by simp [Boxes.made])
  | accepted hp | refused hp =>
    cases pool with
    | nil => exact .inr ⟨_, rfl, congrArg (fun a => [a]) hp⟩
    | cons b pool => exact .inl rfl

theorem sent_eq (h : BoxStep x fresh sent completes y) : sent = [] ∨ ∃ m, sent = [m] := by
  cases h with
  | idle | completed => exact .inl rfl
  | accepted | refused => exact .inr ⟨_, rfl⟩

theorem empty (h : BoxStep x fresh sent completes y) (hx : ∀ b ∈ x.pool, b.Empty) :
    ∀ b ∈ y.pool, b.Empty := by
  have hpop (a : Nat) : ∀ b ∈ (WriteBuffer.popPool x.pool a).2, b.Empty := by
    intro b hb
    cases hp : x.pool with
    | nil => simp [WriteBuffer.popPool, hp] at hb
    | cons c rest =>
      rw [hp] at hb hx
      exact hx b (List.mem_cons_of_mem _ hb)
  cases h with
  | idle => exact hx
  | accepted => exact hpop _
  | refused => exact List.forall_mem_cons.mpr ⟨WriteBuffer.empty_reset _, hpop _⟩
  | completed => exact List.forall_mem_cons.mpr ⟨WriteBuffer.empty_reset _, hx⟩

end BoxStep

/-- A critical section hands MsQuic what its input says, and answers with a count only after
one send that MsQuic took, with the length of that input. -/
structure SendExact (pieces : Option (List Bytes)) (sent : List Sent) (written : Option Nat) :
    Prop where
  payload : ∀ m ∈ sent, ∃ input, pieces = some input ∧ m.payload = input.flatten
  count : ∀ n, written = some n → ∃ m input, sent = [m] ∧ m.refused = false ∧
    pieces = some input ∧ n = input.flatten.length

theorem sendExact_none (pieces : Option (List Bytes)) : SendExact pieces [] none :=
  ⟨nofun, nofun⟩

/-! ## Filling an empty box -/

/-- What MsQuic is handed of the pieces of a send: the length of each is cast to 32 bits. -/
def handed (pieces : List Bytes) : Bytes := pieces.flatMap fun c => (QuicBuffer.ofSlice c).bytes

theorem handed_of_lt {pieces : List Bytes} (h : ∀ c ∈ pieces, c.length < 2 ^ 32) :
    handed pieces = pieces.flatten := by
  rw [handed, ← List.flatMap_id]
  refine List.flatMap_congr fun c hc => ?_
  exact QuicBuffer.ofSlice_bytes (h c hc)

/-- What is put into an empty box is what MsQuic is handed. -/
structure Fills (fill : WriteBuffer → WriteBuffer) (input : Bytes) : Prop where
  ptr : ∀ b, (fill b).ptr = b.ptr
  payload : ∀ b, b.Empty → (fill b).getBuffers.2.flatMap QuicBuffer.bytes = input

namespace WriteBuffer

theorem empty_popPool {pool : List WriteBuffer} (h : ∀ b ∈ pool, b.Empty) (fresh : Nat) :
    (popPool pool fresh).1.Empty := by
  cases pool with
  | nil => exact empty_new fresh
  | cons b rest => exact h b List.mem_cons_self

theorem handed_putSlice {b : WriteBuffer} (hb : b.Empty) (slice : Bytes) :
    (b.putSlice slice).1.getBuffers.2.flatMap QuicBuffer.bytes = handed [slice] := by
  obtain ⟨hi, hz, hbuf⟩ := hb
  simp [putSlice, getBuffers, handed, hi, hz, hbuf]

theorem handed_zerocopy {b : WriteBuffer} (hb : b.Empty) (chunks : List Bytes) :
    ({ b with zerocopy := chunks } : WriteBuffer).getBuffers.2.flatMap QuicBuffer.bytes =
      handed chunks := by
  obtain ⟨hi, -, hbuf⟩ := hb
  cases chunks with
  | nil => simp [getBuffers, handed, hi, hbuf, QuicBuffer.ofSlice]
  | cons c rest =>
    simp only [getBuffers, hbuf]
    exact List.flatMap_map ..

theorem handed_putZerocopy {b : WriteBuffer} (hb : b.Empty) (chunk : Bytes) :
    (b.putZerocopy chunk).1.getBuffers.2.flatMap QuicBuffer.bytes = handed [chunk] := by
  simp only [putZerocopy, hb.2.1, List.nil_append]
  exact handed_zerocopy hb [chunk]

theorem fills_putZerocopy {chunk : Bytes} (h : chunk.length < 2 ^ 32) :
    Fills (fun b => (b.putZerocopy chunk).1) chunk where
  ptr _ := rfl
  payload b hb := by
    rw [handed_putZerocopy hb, handed_of_lt (by simpa using h), List.flatten_singleton]

end WriteBuffer

end MsquicAsync
