import Mathlib.Data.List.Pairwise

/-!
# Consecutive spans

A span is an offset and a length. `Tiles l n`: the spans of `l` (the last one
first) follow each other without gap or overlap from 0 to `n`. Every point below
`n` lies in exactly one span (`Tiles.mem_iff`, `Tiles.pairwise`).
-/

namespace Tiling

/-- `p` lies in the span `x`. -/
def InSpan (p : Nat) (x : Nat × Nat) : Prop := x.1 ≤ p ∧ p < x.1 + x.2

instance (p : Nat) (x : Nat × Nat) : Decidable (InSpan p x) := inferInstanceAs (Decidable (_ ∧ _))

def Tiles : List (Nat × Nat) → Nat → Prop
  | [], n => n = 0
  | x :: l, n => n = x.1 + x.2 ∧ Tiles l x.1

variable {l l' : List (Nat × Nat)} {n p : Nat}

theorem Tiles.inSpan_lt (h : Tiles l n) {x : Nat × Nat} (hx : x ∈ l) : x.1 + x.2 ≤ n := by
  induction l generalizing n with
  | nil => cases hx
  | cons y l ih =>
    obtain ⟨rfl, hl⟩ := h
    rcases List.mem_cons.mp hx with rfl | hx
    · exact Nat.le_refl _
    · exact Nat.le_trans (ih hl hx) (Nat.le_add_right _ _)

theorem Tiles.mem_iff (h : Tiles l n) : (∃ x ∈ l, InSpan p x) ↔ p < n := by
  constructor
  · rintro ⟨x, hx, -, h2⟩
    exact Nat.lt_of_lt_of_le h2 (h.inSpan_lt hx)
  · intro hp
    induction l generalizing n with
    | nil => simp only [Tiles] at h; omega
    | cons y l ih =>
      obtain ⟨rfl, hl⟩ := h
      rcases Nat.lt_or_ge p y.1 with hy | hy
      · obtain ⟨x, hx, hpx⟩ := ih hl hy
        exact ⟨x, List.mem_cons_of_mem _ hx, hpx⟩
      · exact ⟨y, List.mem_cons_self, hy, hp⟩

theorem Tiles.pairwise (h : Tiles l n) :
    l.Pairwise fun x y => ∀ p, InSpan p x → ¬ InSpan p y := by
  induction l generalizing n with
  | nil => exact List.Pairwise.nil
  | cons y l ih =>
    obtain ⟨rfl, hl⟩ := h
    refine List.Pairwise.cons (fun x hx p hp hpx => ?_) (ih hl)
    have := hl.inSpan_lt hx
    have := hp.1; have := hpx.2
    omega

theorem Tiles.append_cons {o k : Nat} (h : Tiles l o) : Tiles ((o, k) :: l) (o + k) := ⟨rfl, h⟩

end Tiling
