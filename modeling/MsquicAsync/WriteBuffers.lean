import MsquicAsync.Lib.Peaks
import MsquicAsync.Endpoint

/-!
# How many write buffers there are

A stream and a connection each have a pool of write buffers, and neither ever
frees one. A send allocates only where the pool is empty, so a stream has as many
buffers as it has ever had sends outstanding at once, the one being made
included, and a connection as many as datagrams (`write_buffers_peak`).
-/

namespace MsquicAsync

open Runs Ranges

variable {R ω : Type}

def Boxes.size (x : Boxes) : Nat := x.pool.length + x.native.length

/-- A critical section allocates a box if it sends and the pool is empty. -/
theorem BoxStep.size {x y : Boxes} {fresh completes : Option Nat} {sent : List Sent}
    (h : BoxStep x fresh sent completes y) : y.size =
      if !sent.isEmpty && x.pool.length == 0 then x.native.length + 1 else x.size := by
  obtain ⟨pool, native⟩ := x
  cases h with
  | idle => rfl
  | accepted hp hr =>
    cases pool with
    | nil => simp [Boxes.size, WriteBuffer.popPool]
    | cons b pool =>
      simp [Boxes.size, WriteBuffer.popPool]
      omega
  | refused hp hr =>
    cases pool with
    | nil =>
      simp [Boxes.size, WriteBuffer.popPool]
      omega
    | cons b pool => simp [Boxes.size, WriteBuffer.popPool]
  | completed hf =>
    have hlen := (WriteBuffer.fromRaw_perm hf).2.length_eq
    simp only [Boxes.size, List.length_cons, List.isEmpty_nil, Bool.not_true, Bool.false_and,
      Bool.false_eq_true, if_false] at hlen ⊢
    omega

/-! ## Sends of any length -/

/-- A completion names a box that MsQuic has. -/
def StreamCompletions (_ : List (StreamStep R ω)) (s : StreamSys R ω) (l : StreamLabel ω) : Prop :=
  ∀ ptr, l.completes? = some ptr → ∃ b ∈ s.native, b.ptr = ptr

def DatagramCompletions (_ : List (ConnectionStep ω)) (s : ConnectionSys ω)
    (l : ConnectionLabel ω) : Prop :=
  s.SendContract l

section

variable [WillWake ω]

theorem Stream.boxStep_pollWriteGeneric {x : StreamInner R ω} {cx : ω} {extraFlags : SendFlags}
    {writeFn : WriteBuffer → WriteBuffer × WriteStatus Nat} {pieces : List Bytes} {fin : Bool}
    (hput : Puts writeFn pieces fin) (fresh : Nat) (native : NativeResult)
    (boxes : List WriteBuffer) :
    BoxStep ⟨x.writePool, boxes⟩ (some fresh)
      (sends (pollWriteGeneric x cx extraFlags writeFn fresh native).calls) none
      ⟨(pollWriteGeneric x cx extraFlags writeFn fresh native).state.writePool,
        boxes ++ acceptedSends (pollWriteGeneric x cx extraFlags writeFn fresh native).calls⟩ := by
  have hidle {y : StreamInner R ω} (hpool : y.writePool = x.writePool) :
      BoxStep ⟨x.writePool, boxes⟩ (some fresh) [] none ⟨y.writePool, boxes ++ []⟩ := by
    rw [hpool, List.append_nil]
    exact .idle _
  unfold pollWriteGeneric
  cases x.sendState with
  | startComplete =>
    obtain ⟨m, hs, hres, hptr, -, hans⟩ :=
      sendWrite_spec x extraFlags fresh native hput.ptr hput.status
    cases native with
    | ok _ =>
      obtain ⟨hacc, hpool, -⟩ := hans
      simp only [hs, hacc, hpool]
      exact .accepted hptr (by rw [Sent.refused, hres])
    | error e =>
      obtain ⟨hacc, hpool, -⟩ := hans
      simp only [hs, hacc, hpool, List.append_nil]
      exact .refused hptr (by rw [Sent.refused, hres])
  | _ => exact hidle rfl

variable [RangeSet R] [StatusApi] {w : Nat} {s : StreamSys R ω}

/-- **What a step of a stream does to its boxes**, whatever it sends. -/
theorem StreamSys.boxStep {l : StreamLabel ω}
    (h : ∀ ptr, l.completes? = some ptr → ∃ b ∈ s.native, b.ptr = ptr) :
    BoxStep s.boxes l.fresh? (MsquicAsync.sends (s.step w l).calls) l.completes?
      (s.step w l).state.boxes := by
  cases l with
  | event ev =>
    have hsend : SendContract s (.event ev) := ⟨nofun, h⟩
    exact (step_boxes hsend).1
  | call op =>
    cases hp : op.pieces? with
    | none =>
      have hsend : SendContract s (.call op) :=
        ⟨fun pieces hp' => absurd (hp.symm.trans hp') nofun, h⟩
      exact (step_boxes hsend).1
    | some pieces =>
      obtain ⟨cx, extraFlags, writeFn, fin, fresh, native, hput, hfresh, hcall⟩ :=
        call_puts (w := w) (s := s) hp
      show BoxStep _ op.fresh? (MsquicAsync.sends (s.call w op).calls) none (s.call w op).state.boxes
      rw [hcall, hfresh]
      exact Stream.boxStep_pollWriteGeneric hput fresh native s.native

end

/-! ## Every run -/

section

variable [WillWake ω]

def streamPool [RangeSet R] [StatusApi] (w : Nat) :
    Pool (streamSystem (R := R) (ω := ω) w StreamCompletions) where
  kept s := s.inner.writePool.length
  lent s := s.native.length
  needs _ o := !(sends o.calls).isEmpty
  init s h := by cases h <;> exact ⟨rfl, rfl⟩
  step _ _ _ hok := (StreamSys.boxStep hok).size

def connectionPool : Pool (connectionSystem (ω := ω) DatagramCompletions) where
  kept s := s.inner.writePool.length
  lent s := s.native.length
  needs _ o := !(datagramSends o.calls).isEmpty
  init s h := by cases h <;> exact ⟨rfl, rfl⟩
  step _ _ _ hok := (ConnectionSys.step_boxes hok).1.size

/-- The most sends that have been outstanding at once, the one being made included. -/
def sendPeak (tr : List (StreamStep R ω)) : Nat :=
  tr.foldr (fun e p => if sends e.out.calls = [] then p else max (e.pre.native.length + 1) p) 0

def datagramPeak (tr : List (ConnectionStep ω)) : Nat :=
  tr.foldr
    (fun e p => if datagramSends e.out.calls = [] then p else max (e.pre.native.length + 1) p) 0

theorem peak_streamPool [RangeSet R] [StatusApi] {w : Nat} (tr : List (StreamStep R ω)) :
    (streamPool w).peak tr = sendPeak tr := by
  induction tr with
  | nil => rfl
  | cons e tr ih =>
    rw [Pool.peak, ih]
    show (if !(sends e.out.calls).isEmpty then _ else _) = _
    cases hs : sends e.out.calls <;> simp [sendPeak, streamPool, hs]

theorem peak_connectionPool (tr : List (ConnectionStep ω)) :
    connectionPool.peak tr = datagramPeak tr := by
  induction tr with
  | nil => rfl
  | cons e tr ih =>
    rw [Pool.peak, ih]
    show (if !(datagramSends e.out.calls).isEmpty then _ else _) = _
    cases hs : datagramSends e.out.calls <;> simp [datagramPeak, connectionPool, hs]

/-- **There are as many write buffers as sends have ever been outstanding at once**, of a stream
and of a connection, in the pool or with MsQuic. -/
theorem write_buffers_peak [RangeSet R] [StatusApi] {w : Nat} :
    (∀ (tr : List (StreamStep R ω)) (s : StreamSys R ω),
      (streamSystem w StreamCompletions).Run tr s →
      s.inner.writePool.length + s.native.length = sendPeak tr) ∧
    ∀ (tr : List (ConnectionStep ω)) (c : ConnectionSys ω),
      (connectionSystem DatagramCompletions).Run tr c →
      c.inner.writePool.length + c.native.length = datagramPeak tr := by
  refine ⟨fun tr s h => ?_, fun tr c h => ?_⟩
  · rw [← peak_streamPool]
    exact (streamPool w).total_eq_peak h
  · rw [← peak_connectionPool]
    exact connectionPool.total_eq_peak h

end

/-- Two writes, a completion and a third write: two boxes, both with MsQuic. -/
theorem write_buffers_peak_two :
    ∃ (tr : List (StreamStep Coalesced Nat)) (s : StreamSys Coalesced Nat),
      (streamSystem 64 StreamCompletions).Run tr s ∧ tr.map Step.label =
        [.call (.pollWrite 7 [3] false {} 300 (.ok ())), .event (.sendComplete false 100),
          .call (.pollWrite 7 [2] false {} 200 (.ok ())),
          .call (.pollWrite 7 [1] false {} 100 (.ok ()))] ∧
      s.native.map WriteBuffer.ptr = [200, 100] ∧
      s.inner.writePool.length + s.native.length = sendPeak tr ∧ sendPeak tr = 2 := by
  have h0 := System.Run.start
    (S := streamSystem (R := Coalesced) (ω := Nat) 64 StreamCompletions) (.fromRaw .bidirectional)
  have h4 := (((h0.step (.call (.pollWrite 7 [1] false {} 100 (.ok ()))) nofun).step
    (.call (.pollWrite 7 [2] false {} 200 (.ok ()))) nofun).step
    (.event (.sendComplete false 100)) (by
      rintro _ ⟨⟩
      exact ⟨_, List.mem_cons_self, rfl⟩)).step
    (.call (.pollWrite 7 [3] false {} 300 (.ok ()))) nofun
  exact ⟨_, _, h4, rfl, rfl, write_buffers_peak.1 _ _ h4, rfl⟩

end MsquicAsync
