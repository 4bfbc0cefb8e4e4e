import MsquicAsync.Lib.Runs

/-!
# First in, first out

A `Fifo` is a queue in the states of a system, with what each label puts in at
the back and each output has taken from the front, and with the condition that
somebody waits for an element. In every run what was put in is what was taken
out followed by what is queued (`Fifo.exact`), so the elements leave in the order
they came and none of them twice, and nobody waits at a queue that has one
(`Fifo.nobody_waits`).
-/

namespace Runs

variable {σ ℓ ο α : Type*}

/-- A queue in the states of a system. -/
structure Fifo (S : System σ ℓ ο) (α : Type*) where
  queue : σ → List α
  puts : ℓ → Option α
  takes : ο → Option α
  /-- Somebody waits for an element. -/
  Waited : σ → Prop
  init : ∀ s, S.init s → queue s = []
  step : ∀ s l, queue s ++ (puts l).toList = (takes (S.next s l).2).toList ++ queue (S.next s l).1
  waits : ∀ s l, (Waited s → queue s = []) → Waited (S.next s l).1 → queue (S.next s l).1 = []

namespace Fifo

variable {S : System σ ℓ ο} (F : Fifo S α) {tr : List (Step σ ℓ ο)} {s : σ}

/-- What was put in, oldest first. -/
def arrived (tr : List (Step σ ℓ ο)) : List α := tr.reverse.flatMap fun e => (F.puts e.label).toList

/-- What was taken out, oldest first. -/
def taken (tr : List (Step σ ℓ ο)) : List α := tr.reverse.flatMap fun e => (F.takes e.out).toList

theorem arrived_cons (e : Step σ ℓ ο) :
    F.arrived (e :: tr) = F.arrived tr ++ (F.puts e.label).toList := by
  simp [arrived]

theorem taken_cons (e : Step σ ℓ ο) : F.taken (e :: tr) = F.taken tr ++ (F.takes e.out).toList := by
  simp [taken]

theorem exact (h : S.Run tr s) : F.arrived tr = F.taken tr ++ F.queue s := by
  refine h.invariant (I := fun tr s => F.arrived tr = F.taken tr ++ F.queue s) (fun s hi => ?_)
    fun tr s l _ _ ih => ?_
  · rw [F.init s hi]
    rfl
  · calc F.arrived (S.take s l :: tr)
        = F.taken tr ++ (F.queue s ++ (F.puts l).toList) := by
          rw [arrived_cons, ih, List.append_assoc, System.take_label]
      _ = F.taken (S.take s l :: tr) ++ F.queue (S.next s l).1 := by
          rw [F.step, taken_cons, List.append_assoc, System.take_out]

theorem nobody_waits (h : S.Run tr s) (hw : F.Waited s) : F.taken tr = F.arrived tr := by
  have hq : F.queue s = [] :=
    h.invariant_state (I := fun s => F.Waited s → F.queue s = []) (fun s hi _ => F.init s hi)
      (fun _ s l _ _ ih => F.waits s l ih) hw
  rw [F.exact h, hq, List.append_nil]

theorem head?_queue (h : S.Run tr s) : (F.queue s).head? = (F.arrived tr)[(F.taken tr).length]? := by
  rw [F.exact h, List.getElem?_append_right (Nat.le_refl _), Nat.sub_self, List.head?_eq_getElem?]

end Fifo

end Runs
