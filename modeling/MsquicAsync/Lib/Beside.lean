import MsquicAsync.Lib.Runs

/-!
# Two systems side by side

`beside S T ok` lets one of two systems step at a time, each on its own state;
`ok` couples them, for it sees both histories. What one side did is a run of that
side alone (`Run.left`, `Run.right`), so whatever is known of its runs holds in
the pair, and `Run.beside_invariant` is the induction rule for what relates the
two histories.
-/

namespace Runs

variable {σ ℓ ο τ ℓ' ο' : Type*}

section

variable (e : Step (σ × τ) (ℓ ⊕ ℓ') (ο ⊕ ο')) (tr : List (Step (σ × τ) (ℓ ⊕ ℓ') (ο ⊕ ο')))

def Step.left? : Option (Step σ ℓ ο) :=
  match e.label, e.out with
  | .inl l, .inl o => some ⟨e.pre.1, l, o, e.post.1⟩
  | _, _ => none

def Step.right? : Option (Step τ ℓ' ο') :=
  match e.label, e.out with
  | .inr l, .inr o => some ⟨e.pre.2, l, o, e.post.2⟩
  | _, _ => none

/-- The history of the left system. -/
def lefts : List (Step σ ℓ ο) := tr.filterMap Step.left?

/-- The history of the right system. -/
def rights : List (Step τ ℓ' ο') := tr.filterMap Step.right?

end

namespace System

/-- A pair of systems, of which one steps at a time. -/
def beside (S : System σ ℓ ο) (T : System τ ℓ' ο')
    (ok : List (Step σ ℓ ο) → List (Step τ ℓ' ο') → ℓ ⊕ ℓ' → Prop) :
    System (σ × τ) (ℓ ⊕ ℓ') (ο ⊕ ο') where
  init p := S.init p.1 ∧ T.init p.2
  ok tr p
    | .inl l => S.ok (lefts tr) p.1 l ∧ ok (lefts tr) (rights tr) (.inl l)
    | .inr l => T.ok (rights tr) p.2 l ∧ ok (lefts tr) (rights tr) (.inr l)
  next p
    | .inl l => (((S.next p.1 l).1, p.2), .inl (S.next p.1 l).2)
    | .inr l => ((p.1, (T.next p.2 l).1), .inr (T.next p.2 l).2)

section

variable {S : System σ ℓ ο} {T : System τ ℓ' ο'}
  {ok : List (Step σ ℓ ο) → List (Step τ ℓ' ο') → ℓ ⊕ ℓ' → Prop}
  {tr : List (Step (σ × τ) (ℓ ⊕ ℓ') (ο ⊕ ο'))} {p : σ × τ}

@[simp] theorem lefts_take_inl (l : ℓ) :
    lefts ((S.beside T ok).take p (.inl l) :: tr) = S.take p.1 l :: lefts tr := rfl

@[simp] theorem lefts_take_inr (l : ℓ') :
    lefts ((S.beside T ok).take p (.inr l) :: tr) = lefts tr := rfl

@[simp] theorem rights_take_inl (l : ℓ) :
    rights ((S.beside T ok).take p (.inl l) :: tr) = rights tr := rfl

@[simp] theorem rights_take_inr (l : ℓ') :
    rights ((S.beside T ok).take p (.inr l) :: tr) = T.take p.2 l :: rights tr := rfl

theorem Run.step_inl (h : (S.beside T ok).Run tr p) (l : ℓ) (hl : S.ok (lefts tr) p.1 l)
    (hok : ok (lefts tr) (rights tr) (.inl l)) :
    (S.beside T ok).Run ((S.beside T ok).take p (.inl l) :: tr) ((S.next p.1 l).1, p.2) :=
  Run.step (.inl l) h (by exact ⟨hl, hok⟩)

theorem Run.step_inr (h : (S.beside T ok).Run tr p) (l : ℓ') (hl : T.ok (rights tr) p.2 l)
    (hok : ok (lefts tr) (rights tr) (.inr l)) :
    (S.beside T ok).Run ((S.beside T ok).take p (.inr l) :: tr) (p.1, (T.next p.2 l).1) :=
  Run.step (.inr l) h (by exact ⟨hl, hok⟩)

theorem Run.sides (h : (S.beside T ok).Run tr p) : S.Run (lefts tr) p.1 ∧ T.Run (rights tr) p.2 := by
  induction h with
  | start hi => exact ⟨.start hi.1, .start hi.2⟩
  | step l _ hok ih =>
    obtain ⟨hl, hr⟩ := ih
    cases l with
    | inl l => exact ⟨hl.step l hok.1, hr⟩
    | inr l => exact ⟨hl, hr.step l hok.1⟩

theorem Run.left (h : (S.beside T ok).Run tr p) : S.Run (lefts tr) p.1 := h.sides.1

theorem Run.right (h : (S.beside T ok).Run tr p) : T.Run (rights tr) p.2 := h.sides.2

/-- **The invariant rule of a pair**: what relates the two histories survives a step of either
side, whichever comes next. -/
theorem Run.beside_invariant {I : List (Step σ ℓ ο) → List (Step τ ℓ' ο') → Prop}
    (h : (S.beside T ok).Run tr p) (h0 : I [] [])
    (hl : ∀ tr s tr' l, S.Run tr s → S.ok tr s l → ok tr tr' (.inl l) → I tr tr' →
      I (S.take s l :: tr) tr')
    (hr : ∀ tr tr' t l, T.Run tr' t → T.ok tr' t l → ok tr tr' (.inr l) → I tr tr' →
      I tr (T.take t l :: tr')) : I (lefts tr) (rights tr) := by
  induction h with
  | start => exact h0
  | step l hrun hok ih =>
    cases l with
    | inl l => exact hl _ _ _ l hrun.left hok.1 hok.2 ih
    | inr l => exact hr _ _ _ l hrun.right hok.1 hok.2 ih

end

end System

end Runs
