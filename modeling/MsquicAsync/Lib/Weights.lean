import Mathlib

/-!
# What stacks weigh

`weight w l` adds up what the members of a list weigh; `total w` does so for a
list of stacks. A thread that replaces the top of its stack changes the total by
the difference (`total_set`). `Covered v w` says of a stack that from every depth
on it weighs no more by `v` than by `w`; it survives pops, and pushes of a stack
that is covered itself.
-/

namespace Weights

variable {α : Type*} {v w : α → Nat} {a b : α} {l l' st : List α} {sts : List (List α)}

def weight (w : α → Nat) (l : List α) : Nat := (l.map w).sum

@[simp] theorem weight_nil : weight w [] = 0 := rfl

@[simp] theorem weight_cons : weight w (a :: l) = w a + weight w l := by
  simp only [weight, List.map_cons, List.sum_cons]

@[simp] theorem weight_append : weight w (l ++ l') = weight w l + weight w l' := by
  simp only [weight, List.map_append, List.sum_append]

theorem weight_add : weight (fun a => v a + w a) l = weight v l + weight w l := by
  induction l with
  | nil => rfl
  | cons a l ih =>
    simp only [weight_cons, ih]
    omega

theorem weight_pos_iff : 0 < weight w l ↔ ∃ a ∈ l, 0 < w a := by
  induction l with
  | nil => simp
  | cons a l ih =>
    simp only [weight_cons, List.exists_mem_cons_iff, ← ih]
    omega

theorem le_weight (h : a ∈ l) : w a ≤ weight w l := by
  induction l with
  | nil => cases h
  | cons b l ih =>
    rw [weight_cons]
    rcases List.mem_cons.mp h with rfl | h
    · omega
    · have := ih h
      omega

theorem weight_eq_countP (p : α → Bool) : weight (fun a => if p a then 1 else 0) l = l.countP p := by
  induction l with
  | nil => rfl
  | cons a l ih =>
    rw [weight_cons, List.countP_cons, ih]
    omega

theorem weight_set {i : Nat} (h : l[i]? = some a) (b : α) :
    weight w (l.set i b) + w a = weight w l + w b := by
  induction l generalizing i with
  | nil => cases h
  | cons c l ih =>
    cases i with
    | zero =>
      cases h
      simp only [List.set_cons_zero, weight_cons]
      omega
    | succ i =>
      have := ih h
      simp only [List.set_cons_succ, weight_cons]
      omega

/-- What all stacks weigh together. -/
def total (w : α → Nat) (sts : List (List α)) : Nat := weight (weight w) sts

theorem total_add : total (fun a => v a + w a) sts = total v sts + total w sts := by
  rw [total, total, total, ← weight_add]
  exact congrArg (weight · sts) (funext fun _ => weight_add)

theorem total_push (sts : List (List α)) (st : List α) :
    total w (sts ++ [st]) = total w sts + weight w st := by
  simp [total]

theorem total_set {t : Nat} {rest : List α} (h : sts[t]? = some (a :: rest)) (new : List α) :
    total w (sts.set t (new ++ rest)) + w a = total w sts + weight w new := by
  have hw := weight_set (w := weight w) h (new ++ rest)
  simp only [weight_cons, weight_append] at hw
  simp only [total]
  omega

theorem total_pos_iff : 0 < total w sts ↔ ∃ st ∈ sts, ∃ a ∈ st, 0 < w a := by
  simp only [total, weight_pos_iff]

theorem le_total (hst : st ∈ sts) (ha : a ∈ st) : w a ≤ total w sts :=
  (le_weight ha).trans (le_weight (w := weight w) hst)

/-- From every depth on, the stack weighs no more by `v` than by `w`. -/
def Covered (v w : α → Nat) : List α → Prop
  | [] => True
  | a :: st => weight v (a :: st) ≤ weight w (a :: st) ∧ Covered v w st

theorem Covered.weight_le (h : Covered v w st) : weight v st ≤ weight w st := by
  cases st with
  | nil => exact Nat.le_refl _
  | cons a st => exact h.1

theorem Covered.tail (h : Covered v w (a :: st)) : Covered v w st := h.2

theorem Covered.push (hl : Covered v w l) (hst : Covered v w st) : Covered v w (l ++ st) := by
  induction l with
  | nil => exact hst
  | cons a l ih =>
    refine ⟨?_, ih hl.2⟩
    have h₁ := hl.1
    have h₂ := hst.weight_le
    show weight v (a :: (l ++ st)) ≤ weight w (a :: (l ++ st))
    simp only [weight_cons, weight_append] at h₁ ⊢
    omega

theorem covered_of_le (h : ∀ a ∈ l, v a ≤ w a) : Covered v w l := by
  induction l with
  | nil => trivial
  | cons a l ih =>
    have hl := ih fun b hb => h b (List.mem_cons_of_mem _ hb)
    refine ⟨?_, hl⟩
    have := h a List.mem_cons_self
    have := hl.weight_le
    rw [weight_cons, weight_cons]
    omega

theorem total_le (h : ∀ st ∈ sts, Covered v w st) : total v sts ≤ total w sts := by
  induction sts with
  | nil => exact Nat.le_refl _
  | cons st sts ih =>
    have h₁ := (h st List.mem_cons_self).weight_le
    have h₂ := ih fun st' h' => h st' (List.mem_cons_of_mem _ h')
    simp only [total, weight_cons] at h₂ ⊢
    omega

end Weights
