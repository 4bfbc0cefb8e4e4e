import Mathlib.Data.List.Basic

/-!
# Draining a source chunk by chunk

A `Source` shows its bytes one chunk at a time: `chunk` is what can be read now,
`advance` passes a number of bytes. `rest` is what is left of it, and `Lawful`
says that the two operations work on its front. `drain` is the usual consumer
loop. It copies everything where the source flows (`drain_flows`), and never
returns where it has bytes left and shows none (`drain_stuck`).
-/

namespace Draining

variable {σ α : Type*}

structure Source (σ α : Type*) where
  chunk : σ → List α
  advance : σ → Nat → σ
  rest : σ → List α

namespace Source

/-- In the states of `I`, `chunk` shows the front of the rest and `advance` takes it off. -/
structure Lawful (S : Source σ α) (I : σ → Prop) : Prop where
  chunk_prefix : ∀ {s}, I s → S.chunk s <+: S.rest s
  rest_advance : ∀ {s k}, I s → k ≤ (S.rest s).length → S.rest (S.advance s k) = (S.rest s).drop k
  keeps : ∀ {s k}, I s → k ≤ (S.rest s).length → I (S.advance s k)

/-- In the states of `I`, something is shown as long as anything is left. -/
def Flows (S : Source σ α) (I : σ → Prop) : Prop := ∀ s, I s → S.rest s ≠ [] → S.chunk s ≠ []

variable (S : Source σ α)

/-- Copy `n` elements: look at the chunk, copy what is needed of it, advance. `none` says that
`fuel` rounds were not enough. -/
def drain : Nat → σ → Nat → Option (List α × σ)
  | 0, s, n => if n = 0 then some ([], s) else none
  | fuel + 1, s, n =>
    if n = 0 then some ([], s)
    else
      let copied := (S.chunk s).take n
      (drain fuel (S.advance s copied.length) (n - copied.length)).map fun (rest, s) =>
        (copied ++ rest, s)

variable {S}

/-- Where the source flows the loop returns, having copied the first `n` elements. -/
theorem Lawful.drain_flows {I : σ → Prop} (hS : S.Lawful I) (hflow : S.Flows I) {fuel n : Nat}
    {s : σ} (hs : I s) (hn : n ≤ (S.rest s).length) (hfuel : n ≤ fuel) :
    ∃ s', S.drain fuel s n = some ((S.rest s).take n, s') ∧ I s' ∧
      S.rest s' = (S.rest s).drop n := by
  induction fuel generalizing s n with
  | zero =>
    obtain rfl : n = 0 := by omega
    exact ⟨s, rfl, hs, rfl⟩
  | succ fuel ih =>
    by_cases h0 : n = 0
    · subst h0
      exact ⟨s, rfl, hs, rfl⟩
    -- the chunk has an element, so this round copies one
    have hne : S.rest s ≠ [] := List.ne_nil_of_length_pos (by omega)
    have hpos : 0 < (S.chunk s).length := List.length_pos_iff.mpr (hflow s hs hne)
    obtain ⟨more, hmore⟩ := hS.chunk_prefix hs
    have hlen : ((S.chunk s).take n).length = min n (S.chunk s).length := List.length_take
    have htake : (S.rest s).take ((S.chunk s).take n).length = (S.chunk s).take n := by
      rw [hlen, ← hmore, List.take_append_of_le_length (Nat.min_le_right ..), ← List.take_take,
        List.take_length]
    obtain ⟨s', hd, hs', hr⟩ := ih (s := S.advance s ((S.chunk s).take n).length)
      (n := n - ((S.chunk s).take n).length) (hS.keeps hs (by omega))
      (by rw [hS.rest_advance hs (by omega), List.length_drop]; omega) (by omega)
    rw [hS.rest_advance hs (by omega)] at hd hr
    refine ⟨s', ?_, hs', ?_⟩
    · simp only [drain, if_neg h0, hd, Option.map_some]
      congr 2
      nth_rewrite 1 [← htake]
      rw [← List.take_add]
      congr 1
      omega
    · rw [hr, List.drop_drop]
      congr 1
      omega

/-- A state that shows nothing, and in which advancing by nothing does nothing, is never left. -/
theorem drain_stuck {s : σ} {n : Nat} (hc : S.chunk s = []) (ha : S.advance s 0 = s) (hn : n ≠ 0)
    (fuel : Nat) : S.drain fuel s n = none := by
  induction fuel with
  | zero => exact if_neg hn
  | succ fuel ih =>
    simp only [drain, if_neg hn, hc, List.take_nil, List.length_nil, ha, Nat.sub_zero, ih,
      Option.map_none]

end Source

end Draining
