import Mathlib.Data.Option.Basic

/-!
# Loops with a decreasing measure

A `Loop` is one iteration of a `loop { .. }` with the measure that every
continuing iteration decreases. `Loop.run` iterates it with as much fuel as the
measure asks for, so the loop always returns; `run_eq` unrolls it once and
`run_rule` is the invariant rule.
-/

namespace Loops

variable {σ β : Type*}

/-- `n` iterations at most. -/
def iter (body : σ → σ ⊕ β) : Nat → σ → Option β
  | 0, _ => none
  | n + 1, s =>
    match body s with
    | .inl s' => iter body n s'
    | .inr b => some b

structure Loop (σ β : Type*) where
  /-- One iteration: `inl` continues, `inr` returns. -/
  body : σ → σ ⊕ β
  measure : σ → Nat
  decreases : ∀ {s s'}, body s = .inl s' → measure s' < measure s

namespace Loop

variable (L : Loop σ β)

theorem iter_isSome {n : Nat} {s : σ} (h : L.measure s < n) : (iter L.body n s).isSome := by
  induction n generalizing s with
  | zero => omega
  | succ n ih =>
    cases hb : L.body s with
    | inl s' =>
      have hd := L.decreases hb
      simp only [iter, hb]
      exact ih (by omega)
    | inr b => simp [iter, hb]

/-- More fuel than the measure changes nothing. -/
theorem iter_fuel {m n : Nat} {s : σ} (hm : L.measure s < m) (hn : L.measure s < n) :
    iter L.body m s = iter L.body n s := by
  induction m generalizing n s with
  | zero => omega
  | succ m ih =>
    obtain ⟨n, rfl⟩ : ∃ k, n = k + 1 := ⟨n - 1, by omega⟩
    cases hb : L.body s with
    | inl s' =>
      have hd := L.decreases hb
      simp only [iter, hb]
      exact ih (by omega) (by omega)
    | inr b => simp [iter, hb]

def run (s : σ) : β := (iter L.body (L.measure s + 1) s).get (L.iter_isSome (Nat.lt_succ_self _))

theorem iter_eq_run {n : Nat} {s : σ} (h : L.measure s < n) : iter L.body n s = some (L.run s) := by
  rw [L.iter_fuel h (Nat.lt_succ_self _), run, Option.some_get]

theorem run_eq (s : σ) :
    L.run s = match L.body s with
      | .inl s' => L.run s'
      | .inr b => b := by
  apply Option.some_injective
  rw [← L.iter_eq_run (Nat.lt_succ_self _), iter]
  cases hb : L.body s with
  | inl s' => exact L.iter_eq_run (by have := L.decreases hb; omega)
  | inr b => rfl

/-- **The invariant rule**: what every continuing iteration preserves holds when the loop
returns. -/
theorem run_rule {I : σ → Prop} {Q : β → Prop} (hstep : ∀ s s', I s → L.body s = .inl s' → I s')
    (hdone : ∀ s b, I s → L.body s = .inr b → Q b) {s : σ} (h : I s) : Q (L.run s) := by
  induction hm : L.measure s using Nat.strongRecOn generalizing s with
  | _ m ih =>
    rw [L.run_eq]
    cases hb : L.body s with
    | inl s' => exact ih _ (by have := L.decreases hb; omega) (hstep _ _ h hb) rfl
    | inr b => exact hdone _ _ h hb

/-- Two loops that continue alike stop in one state. -/
theorem exists_last {γ : Type*} (M : Loop σ γ) {I : σ → Prop}
    (hstep : ∀ s s', I s → L.body s = .inl s' → I s' ∧ M.body s = .inl s') {s : σ} (h : I s) :
    ∃ t, I t ∧ L.body t = .inr (L.run s) ∧ M.run s = M.run t := by
  induction hm : L.measure s using Nat.strongRecOn generalizing s with
  | _ m ih =>
    rw [L.run_eq]
    cases hb : L.body s with
    | inl s' =>
      obtain ⟨hs', hmb⟩ := hstep _ _ h hb
      obtain ⟨t, ht, hlast, hrun⟩ := ih _ (by have := L.decreases hb; omega) hs' rfl
      exact ⟨t, ht, hlast, by rw [M.run_eq, hmb]; exact hrun⟩
    | inr b => exact ⟨s, h, hb, rfl⟩

end Loop

end Loops
