import MsquicAsync.Lib.Runs

/-!
# Tokens that are made when none is left

A `Pool` keeps tokens and lends them; a step that needs one takes a kept one, and
makes one only if none is kept. No token is ever given up, so in every run there
are as many tokens as have ever been needed at once (`Pool.total_eq_peak`).
-/

namespace Runs

variable {σ ℓ ο : Type*}

/-- The tokens of a system, by their numbers. -/
structure Pool (S : System σ ℓ ο) where
  kept : σ → Nat
  lent : σ → Nat
  /-- The step needs a token. -/
  needs : ℓ → ο → Bool
  init : ∀ s, S.init s → kept s = 0 ∧ lent s = 0
  step : ∀ tr s l, S.ok tr s l → kept (S.next s l).1 + lent (S.next s l).1 =
    if needs l (S.next s l).2 && kept s == 0 then lent s + 1 else kept s + lent s

namespace Pool

variable {S : System σ ℓ ο} (P : Pool S) {tr : List (Step σ ℓ ο)} {s : σ}

/-- The most tokens that a step has found lent, and itself. -/
def peak : List (Step σ ℓ ο) → Nat
  | [] => 0
  | e :: tr => if P.needs e.label e.out then max (P.lent e.pre + 1) (peak tr) else peak tr

theorem total_eq_peak (h : S.Run tr s) : P.kept s + P.lent s = P.peak tr := by
  refine h.invariant (I := fun tr s => P.kept s + P.lent s = P.peak tr) (fun s hi => ?_)
    fun tr s l _ hok ih => ?_
  · obtain ⟨hk, hl⟩ := P.init s hi
    rw [hk, hl, peak]
  · rw [P.step tr s l hok, peak, System.take_label, System.take_out, System.take_pre]
    cases P.needs l (S.next s l).2 with
    | false => exact ih
    | true =>
      rw [Bool.true_and, if_pos rfl]
      split
      · next hk =>
        have hk : P.kept s = 0 := eq_of_beq hk
        omega
      · next hk =>
        have hk : P.kept s ≠ 0 := fun h0 => hk (beq_iff_eq.mpr h0)
        omega

end Pool

end Runs
