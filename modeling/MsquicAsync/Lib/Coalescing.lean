import Mathlib

/-!
# A queue that coalesces some of its elements

`p` picks the elements of which only the newest matters. Pushing one overwrites
the first of its kind that is still queued, in place, and queues it at the back
if there is none; every other element is queued at the back. `Inv p raised
delivered queue` relates what was ever pushed to what has been popped and what is
left: the other elements pass through in order, at most one element of the kind
is queued, and the last of the kind on its way out is the last one pushed.
-/

namespace Coalescing

variable {α : Type*} {p : α → Bool} {a : α} {q raised delivered : List α}

/-- Overwrite the first element of the kind, or queue one at the back. -/
def overwrite (p : α → Bool) (a : α) : List α → List α
  | [] => [a]
  | b :: q => if p b then a :: q else b :: overwrite p a q

def push (p : α → Bool) (a : α) (q : List α) : List α :=
  if p a then overwrite p a q else q ++ [a]

theorem filter_overwrite (ha : p a = true) :
    (overwrite p a q).filter p = a :: (q.filter p).tail := by
  induction q with
  | nil => simp [overwrite, ha]
  | cons b q ih =>
    by_cases hb : p b = true
    · simp [overwrite, ha, hb]
    · simp [overwrite, hb, ih]

theorem filter_not_overwrite (ha : p a = true) :
    (overwrite p a q).filter (!p ·) = q.filter (!p ·) := by
  induction q with
  | nil => simp [overwrite, ha]
  | cons b q ih =>
    by_cases hb : p b = true
    · simp [overwrite, ha, hb]
    · simp [overwrite, hb, ih]

structure Inv (p : α → Bool) (raised delivered queue : List α) : Prop where
  others : raised.filter (!p ·) = delivered.filter (!p ·) ++ queue.filter (!p ·)
  queued : (queue.filter p).length ≤ 1
  last : ((delivered ++ queue).filter p).getLast? = (raised.filter p).getLast?

namespace Inv

theorem nil : Inv p [] [] [] := ⟨rfl, Nat.zero_le 1, rfl⟩

theorem push (h : Inv p raised delivered q) (a : α) :
    Inv p (raised ++ [a]) delivered (push p a q) := by
  unfold Coalescing.push
  split
  case isTrue ha =>
    have htail : (q.filter p).tail = [] := by
      apply List.eq_nil_of_length_eq_zero
      have := h.queued
      rw [List.length_tail]
      omega
    refine ⟨?_, ?_, ?_⟩
    · rw [filter_not_overwrite ha, List.filter_append, h.others]
      simp [ha]
    · rw [filter_overwrite ha, htail]
      exact Nat.le_refl 1
    · rw [List.filter_append, filter_overwrite ha, htail]
      simp [ha]
  case isFalse ha =>
    refine ⟨?_, ?_, ?_⟩
    · simp [h.others]
    · simpa [ha] using h.queued
    · simpa [ha] using h.last

theorem pop (h : Inv p raised delivered (a :: q)) : Inv p raised (delivered ++ [a]) q where
  others := by
    rw [h.others, ← List.filter_append, ← List.filter_append, List.append_assoc]
    rfl
  queued := by
    refine le_trans ?_ h.queued
    exact ((List.sublist_cons_self a q).filter p).length_le
  last := by
    rw [← h.last, List.append_assoc]
    rfl

theorem eq_of_mem (h : Inv p raised delivered q) (hq : a ∈ q) (ha : p a = true) :
    (raised.filter p).getLast? = some a := by
  have hmem : a ∈ q.filter p := List.mem_filter.mpr ⟨hq, ha⟩
  obtain ⟨b, hb⟩ : ∃ b, q.filter p = [b] := by
    apply List.length_eq_one_iff.mp
    have := List.length_pos_of_mem hmem
    have := h.queued
    omega
  obtain rfl : a = b := by simpa [hb] using hmem
  rw [← h.last, List.filter_append, hb]
  simp

theorem delivered_last (h : Inv p raised delivered q) (hq : q.filter p = []) :
    (delivered.filter p).getLast? = (raised.filter p).getLast? := by
  rw [← h.last, List.filter_append, hq, List.append_nil]

/-- The queue holds the other elements still to come, and at most one more. -/
theorem length_le (h : Inv p raised delivered q) :
    q.length + (delivered.filter (!p ·)).length ≤ (raised.filter (!p ·)).length + 1 := by
  have hq := h.queued
  have hsplit : q.length = (q.filter p).length + (q.filter (!p ·)).length :=
    List.length_eq_length_filter_add p
  rw [h.others, List.length_append]
  omega

end Inv

end Coalescing
