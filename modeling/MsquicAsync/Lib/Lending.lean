import Mathlib.Data.List.Perm.Basic

/-!
# Tokens that are kept or lent

A `Ledger` keeps some tokens and has lent others. `Moves` says what a step does
to it in terms of what it made, lent and took back; a step of a part of a ledger
is a step of the whole (`Moves.total`). `Balanced`
is the conservation law that every such step keeps: what was made is kept or
lent, once, and what was lent has come back or is still out.
-/

namespace Lending

variable {α : Type*}

structure Ledger (α : Type*) where
  kept : List α
  lent : List α

namespace Ledger

def all (x : Ledger α) : List α := x.kept ++ x.lent

def append (x y : Ledger α) : Ledger α := ⟨x.kept ++ y.kept, x.lent ++ y.lent⟩

theorem all_append (x y : Ledger α) : (x.append y).all.Perm (x.all ++ y.all) := by
  simp only [all, append, List.append_assoc]
  refine List.Perm.append_left _ ?_
  rw [← List.append_assoc, ← List.append_assoc]
  exact List.perm_append_comm.append_right _

/-- The ledger of several parts. -/
def total : List (Ledger α) → Ledger α
  | [] => ⟨[], []⟩
  | x :: l => x.append (total l)

theorem total_append_empty (l : List (Ledger α)) : total (l ++ [⟨[], []⟩]) = total l := by
  induction l with
  | nil => rfl
  | cons x l ih => rw [List.cons_append, total, total, ih]

theorem lent_sublist_total {x : Ledger α} {l : List (Ledger α)} (h : x ∈ l) :
    x.lent.Sublist (total l).lent := by
  induction l with
  | nil => cases h
  | cons y l ih =>
    rcases List.mem_cons.mp h with rfl | h
    · exact List.sublist_append_left _ _
    · exact (ih h).trans (List.sublist_append_right _ _)

theorem nodup_lent {x : Ledger α} (h : x.all.Nodup) : x.lent.Nodup :=
  h.sublist (List.sublist_append_right _ _)

end Ledger

open Ledger

/-- From `x` to `y` the tokens `made` are new, `given` are lent, and `back` are taken back. -/
structure Moves (x y : Ledger α) (made given back : List α) : Prop where
  all : (made ++ x.all).Perm y.all
  lent : (given ++ x.lent).Perm (back ++ y.lent)

namespace Moves

variable {x y z : Ledger α} {made given back : List α}

theorem refl (x : Ledger α) : Moves x x [] [] [] := ⟨.refl _, .refl _⟩

theorem lend {a : α} {kept lent : List α} :
    Moves ⟨a :: kept, lent⟩ ⟨kept, lent ++ [a]⟩ [] [a] [] where
  all := by
    simp only [Ledger.all, List.nil_append, List.cons_append]
    exact (List.perm_append_singleton _ _).symm.trans (.of_eq (List.append_assoc _ _ _))
  lent := by
    simp only [List.nil_append, List.cons_append]
    exact (List.perm_append_singleton _ _).symm

theorem lend_new {a : α} {lent : List α} : Moves ⟨[], lent⟩ ⟨[], lent ++ [a]⟩ [a] [a] [] where
  all := by
    simp only [Ledger.all, List.nil_append, List.cons_append]
    exact (List.perm_append_singleton _ _).symm
  lent := by
    simp only [List.nil_append, List.cons_append]
    exact (List.perm_append_singleton _ _).symm

theorem refuse {a : α} (x : Ledger α) : Moves x x [] [a] [a] := ⟨.refl _, .refl _⟩

theorem refuse_new {a : α} {lent : List α} : Moves ⟨[], lent⟩ ⟨[a], lent⟩ [a] [a] [a] :=
  ⟨.refl _, .refl _⟩

theorem take_back {a : α} {kept lent lent' : List α} (h : lent.Perm (a :: lent')) :
    Moves ⟨kept, lent⟩ ⟨a :: kept, lent'⟩ [] [] [a] where
  all := (h.append_left kept).trans List.perm_middle
  lent := h

theorem append_right (h : Moves x y made given back) (z : Ledger α) :
    Moves (x.append z) (y.append z) made given back where
  all := by
    refine ((all_append x z).append_left made).trans ?_
    rw [← List.append_assoc]
    exact (h.all.append_right _).trans (all_append y z).symm
  lent := by
    simp only [append]
    rw [← List.append_assoc, ← List.append_assoc]
    exact h.lent.append_right _

theorem append_left (h : Moves x y made given back) (z : Ledger α) :
    Moves (z.append x) (z.append y) made given back where
  all := by
    have hz (u : Ledger α) : (z.append u).all.Perm (u.all ++ z.all) :=
      (all_append z u).trans List.perm_append_comm
    refine ((hz x).append_left made).trans ?_
    rw [← List.append_assoc]
    exact (h.all.append_right _).trans (hz y).symm
  lent := by
    have hz (l u : List α) : (l ++ (z.lent ++ u)).Perm (z.lent ++ (l ++ u)) := by
      rw [← List.append_assoc, ← List.append_assoc]
      exact List.perm_append_comm.append_right u
    exact (hz _ _).trans ((h.lent.append_left z.lent).trans (hz _ _).symm)

theorem total (h : Moves x y made given back) (l₁ l₂ : List (Ledger α)) :
    Moves (total (l₁ ++ x :: l₂)) (total (l₁ ++ y :: l₂)) made given back := by
  induction l₁ with
  | nil => exact h.append_right _
  | cons z l₁ ih => exact ih.append_left z

theorem total_set (h : Moves x y made given back) {l : List (Ledger α)} {i : Nat}
    (hx : l[i]? = some x) : Moves (Ledger.total l) (Ledger.total (l.set i y)) made given back := by
  obtain ⟨hi, rfl⟩ := List.getElem?_eq_some_iff.mp hx
  have hl : l.take i ++ l[i] :: l.drop (i + 1) = l := by
    rw [List.getElem_cons_drop, List.take_append_drop]
  have hm := h.total (l.take i) (l.drop (i + 1))
  rw [hl] at hm
  rw [List.set_eq_take_append_cons_drop, if_pos hi]
  exact hm

end Moves

/-- What was made is kept or lent, once, and what was lent has come back or is still out. -/
structure Balanced (x : Ledger α) (made given back : List α) : Prop where
  all : made.Perm x.all
  nodup : made.Nodup
  lent : given.Perm (back ++ x.lent)

namespace Balanced

variable {x y : Ledger α} {made given back made' given' back' : List α}

theorem empty : Balanced (⟨[], []⟩ : Ledger α) [] [] [] := ⟨.refl _, List.nodup_nil, .refl _⟩

theorem step (h : Balanced x made given back) (hm : Moves x y made' given' back')
    (hnew : made'.Nodup) (hfresh : ∀ a ∈ made', a ∉ x.all) :
    Balanced y (made' ++ made) (given' ++ given) (back' ++ back) where
  all := (h.all.append_left made').trans hm.all
  nodup := by
    refine List.nodup_append.mpr ⟨hnew, h.nodup, ?_⟩
    rintro a ha b hb rfl
    exact hfresh a ha (h.all.subset hb)
  lent := by
    refine (h.lent.append_left given').trans ?_
    have hswap (l m n : List α) : (l ++ (m ++ n)).Perm (m ++ (l ++ n)) := by
      rw [← List.append_assoc, ← List.append_assoc]
      exact List.perm_append_comm.append_right n
    refine (hswap _ _ _).trans ((hm.lent.append_left back).trans ?_)
    rw [List.append_assoc]
    exact hswap _ _ _

theorem all_nodup (h : Balanced x made given back) : x.all.Nodup := h.all.nodup_iff.mp h.nodup

end Balanced

end Lending
