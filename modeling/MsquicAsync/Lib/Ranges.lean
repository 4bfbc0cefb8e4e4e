import Mathlib.Order.Bounds.Basic

/-!
# Sets of half-open ranges

`RangeSet R` is the interface of a set of `Nat` ranges that coalesces ranges
which overlap or touch; `LawfulRangeSet R` is what such a set promises.
`prefixEnd` is the end of the first range when that range starts at 0, and
`isGreatest_prefixEnd` says it is the length of the longest covered prefix.
`Coalesced` is one lawful instance: the sorted list of the ranges.
-/

namespace Ranges

class RangeSet (R : Type) where
  new : R
  /-- Insert the range `[a, b)`. -/
  insert : R → Nat → Nat → R
  /-- The minimum range, if there is one. -/
  first : R → Option (Nat × Nat)
  contains : R → Nat → Bool

open RangeSet

/-- What the operations promise, for ranges that are not empty. -/
class LawfulRangeSet (R : Type) [RangeSet R] : Prop where
  contains_new : ∀ p, contains (new : R) p = false
  contains_insert : ∀ (r : R) {a b : Nat} (p : Nat), a < b →
    (contains (insert r a b) p = true ↔ contains r p = true ∨ (a ≤ p ∧ p < b))
  first_none : ∀ {r : R}, first r = none → ∀ p, contains r p = false
  /-- The first range is covered, nothing covered lies below it, and since touching ranges
  are coalesced its end is not covered. -/
  first_some : ∀ {r : R} {a b : Nat}, first r = some (a, b) →
    (∀ p, a ≤ p → p < b → contains r p = true) ∧ (∀ p, contains r p = true → a ≤ p) ∧
      contains r b = false

/-- The end of the first range if it starts at 0, else 0. -/
def prefixEnd {R : Type} [RangeSet R] (r : R) : Nat :=
  match first r with
  | some (0, e) => e
  | _ => 0

section

variable {R : Type} [RangeSet R]

theorem prefixEnd_of_first {r : R} {e : Nat} (h : first r = some (0, e)) : prefixEnd r = e := by
  simp [prefixEnd, h]

theorem prefixEnd_of_first_ne {r : R} (h : ∀ e, first r ≠ some (0, e)) : prefixEnd r = 0 := by
  unfold prefixEnd
  split
  · next hf => exact absurd hf (h _)
  · rfl

variable [LawfulRangeSet R]

theorem contains_of_lt_prefixEnd {r : R} {p : Nat} (h : p < prefixEnd r) : contains r p = true := by
  unfold prefixEnd at h
  split at h
  · next hf => exact (LawfulRangeSet.first_some hf).1 p (Nat.zero_le p) h
  · omega

theorem contains_prefixEnd (r : R) : contains r (prefixEnd r) = false := by
  unfold prefixEnd
  split
  · next hf => exact (LawfulRangeSet.first_some hf).2.2
  · next hf =>
    cases h : first r with
    | none => exact LawfulRangeSet.first_none h 0
    | some ab =>
      obtain ⟨a, b⟩ := ab
      obtain ⟨-, hmin, -⟩ := LawfulRangeSet.first_some h
      by_contra hc
      have ha := hmin 0 (by simpa using hc)
      obtain rfl : a = 0 := by omega
      exact hf b h

/-- **The longest covered prefix** of a range set ends at `prefixEnd`. -/
theorem isGreatest_prefixEnd (r : R) :
    IsGreatest {n | ∀ p, p < n → contains r p = true} (prefixEnd r) := by
  refine ⟨fun p hp => contains_of_lt_prefixEnd hp, fun n hn => ?_⟩
  by_contra hlt
  have := hn _ (Nat.lt_of_not_le hlt)
  simp [contains_prefixEnd] at this

theorem prefixEnd_new : prefixEnd (new : R) = 0 := by
  by_contra h
  have := contains_of_lt_prefixEnd (r := (new : R)) (Nat.pos_of_ne_zero h)
  simp [LawfulRangeSet.contains_new] at this

theorem prefixEnd_le_insert (r : R) {a b : Nat} (h : a < b) :
    prefixEnd r ≤ prefixEnd (insert r a b) :=
  (isGreatest_prefixEnd _).2 fun p hp =>
    (LawfulRangeSet.contains_insert r p h).mpr (.inl (contains_of_lt_prefixEnd hp))

end

/-! ## The sorted list of ranges -/

/-- Non-empty ranges at or above `lo`, in order, with a gap between any two. -/
def Sep : Nat → List (Nat × Nat) → Prop
  | _, [] => True
  | lo, (a, b) :: rest => lo ≤ a ∧ a < b ∧ Sep (b + 1) rest

theorem Sep.mono {lo lo' : Nat} {l : List (Nat × Nat)} (h : Sep lo l) (hle : lo' ≤ lo) :
    Sep lo' l := by
  cases l with
  | nil => trivial
  | cons x rest => exact ⟨Nat.le_trans hle h.1, h.2.1, h.2.2⟩

/-- Insert `[a, b)`, absorbing the ranges it overlaps or touches. -/
def insertRange (a b : Nat) : List (Nat × Nat) → List (Nat × Nat)
  | [] => [(a, b)]
  | (c, d) :: rest =>
    if b < c then (a, b) :: (c, d) :: rest
    else if d < a then (c, d) :: insertRange a b rest
    else insertRange (min a c) (max b d) rest

theorem Sep.insertRange {lo a b : Nat} {l : List (Nat × Nat)} (h : Sep lo l) (ha : lo ≤ a)
    (hab : a < b) : Sep lo (insertRange a b l) := by
  induction l generalizing lo a b with
  | nil => exact ⟨ha, hab, trivial⟩
  | cons x rest ih =>
    obtain ⟨c, d⟩ := x
    obtain ⟨hc, hcd, hrest⟩ := h
    simp only [Ranges.insertRange]
    split
    · exact ⟨ha, hab, by omega, hcd, hrest⟩
    · split
      · exact ⟨hc, hcd, ih hrest (by omega) hab⟩
      · exact ih (hrest.mono (by omega)) (by omega) (by omega)

/-- Membership in one of the ranges. -/
def mem (p : Nat) (l : List (Nat × Nat)) : Bool := l.any fun r => decide (r.1 ≤ p ∧ p < r.2)

@[simp] theorem mem_nil (p : Nat) : mem p [] = false := rfl

@[simp] theorem mem_cons (p a b : Nat) (l : List (Nat × Nat)) :
    mem p ((a, b) :: l) = true ↔ (a ≤ p ∧ p < b) ∨ mem p l = true := by
  simp [mem]

theorem mem_insertRange {a b : Nat} (l : List (Nat × Nat)) (p : Nat) (hab : a < b)
    (hl : ∀ r ∈ l, r.1 < r.2) :
    mem p (insertRange a b l) = true ↔ mem p l = true ∨ (a ≤ p ∧ p < b) := by
  induction l generalizing a b with
  | nil => simp [insertRange]
  | cons x rest ih =>
    obtain ⟨c, d⟩ := x
    obtain ⟨hcd, hrest⟩ := List.forall_mem_cons.mp hl
    simp only [insertRange]
    split
    · simp only [mem_cons]; tauto
    · split
      · simp only [mem_cons, ih hab hrest]; tauto
      · -- the merged range covers exactly the two that overlap or touch
        rw [ih (by omega) hrest, mem_cons]
        simp only at hcd
        have : (min a c ≤ p ∧ p < max b d) ↔ (c ≤ p ∧ p < d) ∨ (a ≤ p ∧ p < b) := by omega
        rw [this]; tauto

theorem Sep.lt {lo : Nat} {l : List (Nat × Nat)} (h : Sep lo l) : ∀ r ∈ l, lo ≤ r.1 ∧ r.1 < r.2 := by
  induction l generalizing lo with
  | nil => simp
  | cons x rest ih =>
    refine List.forall_mem_cons.mpr ⟨⟨h.1, h.2.1⟩, fun r hr => ?_⟩
    have := ih h.2.2 r hr
    have := h.1; have := h.2.1
    omega

theorem Sep.le_of_mem {lo p : Nat} {l : List (Nat × Nat)} (h : Sep lo l) (hp : mem p l = true) :
    lo ≤ p := by
  simp only [mem, List.any_eq_true, decide_eq_true_eq] at hp
  obtain ⟨r, hr, hrp, -⟩ := hp
  exact Nat.le_trans (h.lt r hr).1 hrp

/-- A set of ranges as the sorted list of its maximal ranges. -/
structure Coalesced where
  ranges : List (Nat × Nat)
  sep : Sep 0 ranges

instance : RangeSet Coalesced where
  new := ⟨[], trivial⟩
  insert r a b :=
    if h : a < b then ⟨insertRange a b r.ranges, r.sep.insertRange (Nat.zero_le a) h⟩ else r
  first r := r.ranges.head?
  contains r p := mem p r.ranges

instance : LawfulRangeSet Coalesced where
  contains_new _ := rfl
  contains_insert r a b p h := by
    simp only [contains, RangeSet.insert, h, ↓reduceDIte]
    exact mem_insertRange r.ranges p h fun x hx => (r.sep.lt x hx).2
  first_none {r} h p := by
    simp only [first, List.head?_eq_none_iff] at h
    simp [contains, h]
  first_some {r a b} h := by
    obtain ⟨ranges, sep⟩ := r
    cases ranges with
    | nil => simp [first] at h
    | cons x rest =>
      simp only [first, List.head?_cons, Option.some.injEq] at h
      subst h
      obtain ⟨-, hab, hrest⟩ := sep
      simp only [contains, mem_cons]
      refine ⟨fun p h1 h2 => .inl ⟨h1, h2⟩, fun p hp => ?_, ?_⟩
      · rcases hp with hp | hp
        · exact hp.1
        · have := hrest.le_of_mem hp; omega
      · by_contra hc
        rcases (mem_cons b a b rest).mp (by simpa using hc) with hp | hp
        · omega
        · have := hrest.le_of_mem hp; omega

end Ranges
