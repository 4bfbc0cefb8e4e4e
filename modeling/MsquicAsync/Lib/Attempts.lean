import Mathlib.Data.List.Basic

/-!
# Bounded attempts

A loop that makes at most `n` attempts. Each one gets an answer from its
environment and either returns or leaves the state of the next. `made` lists the
attempts a loop makes, and `getElem?_made_succ` says which comes after which; `run`
is how the loop ends (`exists_of_run_inl`, `exists_of_run_inr`).
-/

namespace Attempts

variable {σ α β : Type*}

/-- The state and the answer of each attempt, in order. -/
def made (body : σ → α → σ ⊕ β) : Nat → σ → (Nat → α) → List (σ × α)
  | 0, _, _ => []
  | n + 1, s, answers =>
    (s, answers 0) ::
      match body s (answers 0) with
      | .inl s' => made body n s' fun k => answers (k + 1)
      | .inr _ => []

/-- How the loop ends: an attempt has returned, or the attempts are used up. -/
def run (body : σ → α → σ ⊕ β) : Nat → σ → (Nat → α) → σ ⊕ β
  | 0, s, _ => .inl s
  | n + 1, s, answers =>
    match body s (answers 0) with
    | .inl s' => run body n s' fun k => answers (k + 1)
    | .inr b => .inr b

variable {body : σ → α → σ ⊕ β} {n k : Nat} {s t : σ} {answers : Nat → α} {a : α}

theorem getElem?_made_zero : (made body (n + 1) s answers)[0]? = some (s, answers 0) := rfl

/-- **One attempt follows another** exactly if that one has left its state, and attempts are
left. -/
theorem getElem?_made_succ :
    (made body n s answers)[k + 1]? = some (t, a) ↔
      k + 1 < n ∧ a = answers (k + 1) ∧
        ∃ s' a', (made body n s answers)[k]? = some (s', a') ∧ body s' a' = .inl t := by
  induction n generalizing s answers k with
  | zero => simp [made]
  | succ n ih =>
    cases hb : body s (answers 0) with
    | inr b =>
      simp only [made, hb, List.getElem?_cons_succ, List.getElem?_nil]
      refine iff_of_false (by simp) ?_
      rintro ⟨-, -, s', a', hk, ht⟩
      cases k with
      | zero =>
        obtain ⟨rfl, rfl⟩ := Prod.mk.inj (Option.some.inj hk)
        cases hb.symm.trans ht
      | succ k => cases hk
    | inl s' =>
      simp only [made, hb, List.getElem?_cons_succ]
      cases k with
      | zero =>
        cases n with
        | zero => simp [made]
        | succ n =>
          simp only [getElem?_made_zero, List.getElem?_cons_zero, Option.some.injEq,
            Prod.mk.injEq]
          constructor
          · rintro ⟨rfl, rfl⟩
            exact ⟨by omega, rfl, s, answers 0, ⟨rfl, rfl⟩, hb⟩
          · rintro ⟨-, rfl, _, _, ⟨rfl, rfl⟩, ht⟩
            exact ⟨Sum.inl.inj (hb.symm.trans ht), rfl⟩
      | succ k =>
        rw [ih, List.getElem?_cons_succ, Nat.add_lt_add_iff_right]

/-- What each state leaves to the next holds of every attempt's state. -/
theorem made_rule {I : σ → Prop} (hstep : ∀ s a t, I s → body s a = .inl t → I t) (h : I s) :
    ∀ x ∈ made body n s answers, I x.1 := by
  induction n generalizing s answers with
  | zero => exact List.forall_mem_nil _
  | succ n ih =>
    refine List.forall_mem_cons.mpr ⟨h, ?_⟩
    cases hb : body s (answers 0) with
    | inl s' => exact ih (hstep _ _ _ h hb)
    | inr b => exact List.forall_mem_nil _

theorem exists_of_run_inl (hn : n ≠ 0) (h : run body n s answers = .inl t) :
    ∃ x ∈ made body n s answers, body x.1 x.2 = .inl t := by
  induction n generalizing s answers with
  | zero => exact absurd rfl hn
  | succ n ih =>
    cases hb : body s (answers 0) with
    | inr b =>
      simp only [run, hb] at h
      cases h
    | inl s' =>
      simp only [run, hb] at h
      cases n with
      | zero =>
        obtain rfl := Sum.inl.inj h
        exact ⟨_, List.mem_cons_self, hb⟩
      | succ n =>
        obtain ⟨x, hx, ht⟩ := ih (Nat.succ_ne_zero n) h
        simp only [made, hb]
        exact ⟨x, List.mem_cons_of_mem _ hx, ht⟩

theorem exists_of_run_inr {b : β} (h : run body n s answers = .inr b) :
    ∃ x ∈ made body n s answers, body x.1 x.2 = .inr b := by
  induction n generalizing s answers with
  | zero => cases h
  | succ n ih =>
    cases hb : body s (answers 0) with
    | inr b' =>
      simp only [run, hb] at h
      obtain rfl := Sum.inr.inj h
      exact ⟨_, List.mem_cons_self, hb⟩
    | inl s' =>
      simp only [run, hb] at h
      obtain ⟨x, hx, ht⟩ := ih h
      simp only [made, hb]
      exact ⟨x, List.mem_cons_of_mem _ hx, ht⟩

end Attempts
