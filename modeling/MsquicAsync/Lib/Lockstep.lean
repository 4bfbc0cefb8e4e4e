import Mathlib.Data.List.Forall2
import MsquicAsync.Lib.Runs

/-!
# Two runs in lockstep

A `Lockstep` relates the states of two systems so that related states answer
alike to labels that ask alike, and stay related. Then two whole runs on alike
labels answer alike (`Lockstep.outs`). If the second system may always be asked
what the first is asked, it can follow it: every run of the first has one of the
second beside it (`Lockstep.follow`).
-/

namespace Runs

variable {σ ℓ ο τ ℓ' ο' : Type*}

namespace System

/-- The outputs of labels that are issued one after the other. -/
def outs (S : System σ ℓ ο) : σ → List ℓ → List ο
  | _, [] => []
  | s, l :: ls => (S.next s l).2 :: outs S (S.next s l).1 ls

@[simp] theorem outs_nil (S : System σ ℓ ο) (s : σ) : S.outs s [] = [] := rfl

@[simp] theorem outs_cons (S : System σ ℓ ο) (s : σ) (l : ℓ) (ls : List ℓ) :
    S.outs s (l :: ls) = (S.next s l).2 :: S.outs (S.next s l).1 ls := rfl

theorem Run.eq_post {S : System σ ℓ ο} {e : Step σ ℓ ο} {tr : List (Step σ ℓ ο)} {s : σ}
    (h : S.Run (e :: tr) s) : s = e.post := by
  cases h
  rfl

end System

section

variable {α β : Type*} {P : α → β → Prop} {l : List α} {l' : List β}

theorem forall₂_getElem? (h : List.Forall₂ P l l') (i : Nat) :
    (l[i]? = none ∧ l'[i]? = none) ∨ ∃ a b, l[i]? = some a ∧ l'[i]? = some b ∧ P a b := by
  induction h generalizing i with
  | nil => exact .inl ⟨rfl, rfl⟩
  | @cons a b _ _ hab _ ih =>
    cases i with
    | zero => exact .inr ⟨a, b, rfl, rfl, hab⟩
    | succ i => exact ih i

theorem forall₂_set (h : List.Forall₂ P l l') (i : Nat) {a : α} {b : β} (hab : P a b) :
    List.Forall₂ P (l.set i a) (l'.set i b) := by
  induction h generalizing i with
  | nil => exact .nil
  | cons hcd hl ih =>
    cases i with
    | zero => exact .cons hab hl
    | succ i => exact .cons hcd (ih i)

end

structure Lockstep (S : System σ ℓ ο) (T : System τ ℓ' ο') where
  Twins : σ → τ → Prop
  /-- The label asks of the one state what the other label asks of the other state. -/
  Alike : σ → τ → ℓ → ℓ' → Prop
  /-- The outputs say the same. -/
  Same : ο → ο' → Prop
  step : ∀ s t l l', Twins s t → Alike s t l l' →
    Twins (S.next s l).1 (T.next t l').1 ∧ Same (S.next s l).2 (T.next t l').2

namespace Lockstep

variable {S : System σ ℓ ο} {T : System τ ℓ' ο'} (L : Lockstep S T)

/-- The labels ask alike, each of the state that those before it lead to. -/
inductive AllAlike : σ → τ → List ℓ → List ℓ' → Prop where
  | nil {s : σ} {t : τ} : AllAlike s t [] []
  | cons {s : σ} {t : τ} {l : ℓ} {l' : ℓ'} {ls : List ℓ} {ls' : List ℓ'} : L.Alike s t l l' →
      AllAlike (S.next s l).1 (T.next t l').1 ls ls' → AllAlike s t (l :: ls) (l' :: ls')

/-- The steps ask alike and answer the same. -/
structure SameStep (e : Step σ ℓ ο) (e' : Step τ ℓ' ο') : Prop where
  alike : L.Alike e.pre e'.pre e.label e'.label
  same : L.Same e.out e'.out

variable {L}

/-- **Twins answer the same**, however often they are asked. -/
theorem outs {s : σ} {t : τ} {ls : List ℓ} {ls' : List ℓ'} (ht : L.Twins s t)
    (h : L.AllAlike s t ls ls') : List.Forall₂ L.Same (S.outs s ls) (T.outs t ls') := by
  induction h with
  | nil => exact .nil
  | cons ha _ ih =>
    obtain ⟨hnext, hsame⟩ := L.step _ _ _ _ ht ha
    exact .cons hsame (ih hnext)

/-- **The second system follows the first**, from twins on. -/
theorem follow {e : Step σ ℓ ο} {tr new : List (Step σ ℓ ο)} {tr' : List (Step τ ℓ' ο')} {s : σ}
    {t : τ} (hasked : ∀ tr s tr' t l, T.Run tr' t → L.Twins s t → S.ok tr s l →
      ∃ l', T.ok tr' t l' ∧ L.Alike s t l l')
    (hT : T.Run tr' t) (ht : L.Twins e.post t) (h : S.Run (new ++ e :: tr) s) :
    ∃ new' t', T.Run (new' ++ tr') t' ∧ L.Twins s t' ∧ List.Forall₂ L.SameStep new new' := by
  induction new generalizing s with
  | nil => exact ⟨[], t, hT, h.eq_post ▸ ht, .nil⟩
  | cons e' new ih =>
    cases h with
    | step l hr hok =>
      obtain ⟨new', t', hT', ht', hall⟩ := ih hr
      obtain ⟨l', hok', ha⟩ := hasked _ _ _ _ l hT' ht' hok
      obtain ⟨hnext, hsame⟩ := L.step _ _ _ _ ht' ha
      exact ⟨T.take t' l' :: new', _, hT'.step l' hok', hnext, .cons ⟨ha, hsame⟩ hall⟩

end Lockstep

end Runs
