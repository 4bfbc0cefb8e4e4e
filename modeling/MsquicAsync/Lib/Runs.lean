import Mathlib.Data.List.Basic

/-!
# Runs of a system and their histories

A `System` is a step function on states with labels and outputs, a set of
initial states and a contract `ok` that says which label its environment may
issue next, given the history so far. `S.Run tr s`: the history `tr` (newest
step first) leads from an initial state to `s`. `Run.invariant` is the
induction rule; `Run.always_iff` turns an exact per-step condition into an exact
condition on whole runs.
-/

namespace Runs

/-- One step of a history. -/
structure Step (σ ℓ ο : Type*) where
  pre : σ
  label : ℓ
  out : ο
  post : σ

/-- The state a history started from, given the one it led to. -/
def origin {σ ℓ ο : Type*} : List (Step σ ℓ ο) → σ → σ
  | [], s => s
  | e :: tr, _ => origin tr e.pre

section

variable {α : Type*} {a : α} {l : List α} {Q : α → List α → Prop}

theorem forall_suffix_cons :
    (∀ b l', b :: l' <:+ a :: l → Q b l') ↔ Q a l ∧ ∀ b l', b :: l' <:+ l → Q b l' := by
  constructor
  · exact fun hq => ⟨hq _ _ (List.suffix_refl _),
      fun b l' hsuf => hq b l' (hsuf.trans (List.suffix_cons _ _))⟩
  · rintro ⟨hq, htl⟩ b l' hsuf
    rcases List.suffix_cons_iff.mp hsuf with heq | hsuf
    · obtain ⟨rfl, rfl⟩ := List.cons.inj heq
      exact hq
    · exact htl b l' hsuf

theorem forall_suffix_nil : ∀ b l', b :: l' <:+ [] → Q b l' :=
  fun b l' hsuf => absurd (List.suffix_nil.mp hsuf) (List.cons_ne_nil b l')

end

structure System (σ ℓ ο : Type*) where
  init : σ → Prop
  /-- The labels the environment may issue after a history that led to a state. -/
  ok : List (Step σ ℓ ο) → σ → ℓ → Prop
  next : σ → ℓ → σ × ο

variable {σ ℓ ο : Type*}

namespace System

variable (S : System σ ℓ ο)

def take (s : σ) (l : ℓ) : Step σ ℓ ο := ⟨s, l, (S.next s l).2, (S.next s l).1⟩

@[simp] theorem take_pre (s : σ) (l : ℓ) : (S.take s l).pre = s := rfl
@[simp] theorem take_label (s : σ) (l : ℓ) : (S.take s l).label = l := rfl
@[simp] theorem take_out (s : σ) (l : ℓ) : (S.take s l).out = (S.next s l).2 := rfl
@[simp] theorem take_post (s : σ) (l : ℓ) : (S.take s l).post = (S.next s l).1 := rfl

inductive Run : List (Step σ ℓ ο) → σ → Prop where
  | start {s : σ} : S.init s → Run [] s
  | step {tr : List (Step σ ℓ ο)} {s : σ} (l : ℓ) : Run tr s → S.ok tr s l →
      Run (S.take s l :: tr) (S.next s l).1

variable {S} {tr : List (Step σ ℓ ο)} {s : σ}

/-- **The invariant rule**: what holds initially and survives every step the contract
allows holds at the end of every run. -/
theorem Run.invariant {I : List (Step σ ℓ ο) → σ → Prop} (h : S.Run tr s)
    (h0 : ∀ s, S.init s → I [] s)
    (hs : ∀ tr s l, S.Run tr s → S.ok tr s l → I tr s → I (S.take s l :: tr) (S.next s l).1) :
    I tr s := by
  induction h with
  | start hi => exact h0 _ hi
  | step l hr hok ih => exact hs _ _ l hr hok ih

theorem Run.invariant_state {I : σ → Prop} (h : S.Run tr s) (h0 : ∀ s, S.init s → I s)
    (hs : ∀ tr s l, S.Run tr s → S.ok tr s l → I s → I (S.next s l).1) : I s :=
  h.invariant (I := fun _ s => I s) h0 fun tr s l hr hok hi => hs tr s l hr hok hi

/-- Every step of a run was taken from the state that the history before it leads to. -/
theorem Run.of_suffix {e : Step σ ℓ ο} {tr' : List (Step σ ℓ ο)} (h : S.Run tr s)
    (he : e :: tr' <:+ tr) :
    S.Run tr' e.pre ∧ S.ok tr' e.pre e.label ∧ e = S.take e.pre e.label := by
  induction h with
  | start => exact absurd (List.suffix_nil.mp he) (List.cons_ne_nil _ _)
  | step l hr hok ih =>
    rcases List.suffix_cons_iff.mp he with heq | he
    · obtain ⟨rfl, rfl⟩ := List.cons.inj heq
      exact ⟨hr, hok, rfl⟩
    · exact ih he

theorem Run.of_mem {e : Step σ ℓ ο} (h : S.Run tr s) (he : e ∈ tr) :
    ∃ tr', S.Run tr' e.pre ∧ S.ok tr' e.pre e.label ∧ e = S.take e.pre e.label := by
  obtain ⟨l₁, l₂, hl⟩ := List.append_of_mem he
  exact ⟨l₂, h.of_suffix ⟨l₁, hl.symm⟩⟩

/-- What holds after one of a run's steps, and survives every step the contract allows, holds
at its end. -/
theorem Run.invariant_after {I : List (Step σ ℓ ο) → σ → Prop} {e : Step σ ℓ ο}
    {tr' : List (Step σ ℓ ο)} (h : S.Run tr s) (he : e :: tr' <:+ tr) (h0 : I (e :: tr') e.post)
    (hs : ∀ tr s l, S.Run tr s → S.ok tr s l → I tr s → I (S.take s l :: tr) (S.next s l).1) :
    I tr s := by
  induction h with
  | start => exact absurd (List.suffix_nil.mp he) (List.cons_ne_nil _ _)
  | step l hr hok ih =>
    rcases List.suffix_cons_iff.mp he with heq | he
    · obtain ⟨rfl, rfl⟩ := List.cons.inj heq
      exact h0
    · exact hs _ _ l hr hok (ih he)

/-- A run under one contract is a run under every weaker one. -/
theorem Run.mono {S' : System σ ℓ ο} (h : S.Run tr s) (hi : ∀ s, S.init s → S'.init s)
    (hok : ∀ tr s l, S.ok tr s l → S'.ok tr s l) (hn : S'.next = S.next) : S'.Run tr s := by
  induction h with
  | start h0 => exact .start (hi _ h0)
  | step l _ ho ih =>
    have := Run.step l ih (hok _ _ _ ho)
    simpa only [System.take, hn] using this

/-- Where the environment may issue anything, any labels extend a run. -/
theorem Run.extend (h : S.Run tr s) (hok : ∀ tr s l, S.ok tr s l) (ls : List ℓ) :
    ∃ tr', S.Run tr' (ls.foldl (fun s l => (S.next s l).1) s) ∧
      tr'.map Step.label = ls.reverse ++ tr.map Step.label := by
  induction ls generalizing tr s with
  | nil => exact ⟨tr, h, rfl⟩
  | cons l ls ih =>
    obtain ⟨tr', hr, hl⟩ := ih (h.step l (hok tr s l))
    refine ⟨tr', hr, hl.trans ?_⟩
    rw [List.map_cons, take_label, List.reverse_cons, List.append_assoc, List.singleton_append]

/-- **An exact condition for a property of every state of a run.** Suppose `I` is stronger
than `P`, a step that meets `C` preserves `I`, and a step from an `I` state that lands in a
`P` state meets `C`. Then all states of a run satisfy `P` exactly when all its steps meet
`C`. The states of a run are its last one and those its steps start from; `P`, `I` and `C`
may look at the history up to there. -/
theorem Run.exact {I P : List (Step σ ℓ ο) → σ → Prop} {C : List (Step σ ℓ ο) → σ → ℓ → Prop}
    (h : S.Run tr s) (h0 : ∀ s, S.init s → I [] s) (hip : ∀ tr s, I tr s → P tr s)
    (hs : ∀ tr s l, S.Run tr s → S.ok tr s l → I tr s →
      (C tr s l → I (S.take s l :: tr) (S.next s l).1) ∧
      (P (S.take s l :: tr) (S.next s l).1 → C tr s l)) :
    (P tr s ∧ ∀ e tr', e :: tr' <:+ tr → P tr' e.pre) ↔
      ∀ e tr', e :: tr' <:+ tr → C tr' e.pre e.label := by
  -- `I` is what the condition gives at the end of the run
  suffices hI : ((P tr s ∧ ∀ e tr', e :: tr' <:+ tr → P tr' e.pre) ↔
      ∀ e tr', e :: tr' <:+ tr → C tr' e.pre e.label) ∧
      ((∀ e tr', e :: tr' <:+ tr → C tr' e.pre e.label) → I tr s) from hI.1
  induction h with
  | start hi =>
    have := h0 _ hi
    simp [this, hip _ _ this]
  | @step tr s l hr hok ih =>
    obtain ⟨hiff, hI⟩ := ih
    simp only [forall_suffix_cons, take_pre, take_label]
    have hstep (hall : ∀ e tr', e :: tr' <:+ tr → C tr' e.pre e.label) := hs _ _ l hr hok (hI hall)
    refine ⟨⟨?_, ?_⟩, fun ⟨hc, hall⟩ => (hstep hall).1 hc⟩
    · rintro ⟨hp, hps, hpre⟩
      have hall := hiff.mp ⟨hps, hpre⟩
      exact ⟨(hstep hall).2 hp, hall⟩
    · rintro ⟨hc, hall⟩
      exact ⟨hip _ _ ((hstep hall).1 hc), hiff.mpr hall⟩

theorem Run.always_iff {I P : σ → Prop} {C : σ → ℓ → Prop} (h : S.Run tr s)
    (h0 : ∀ s, S.init s → I s) (hip : ∀ s, I s → P s)
    (hs : ∀ tr s l, S.Run tr s → S.ok tr s l → I s →
      (C s l → I (S.next s l).1) ∧ (P (S.next s l).1 → C s l)) :
    (P s ∧ ∀ e ∈ tr, P e.pre) ↔ ∀ e ∈ tr, C e.pre e.label := by
  have hmem {Q : Step σ ℓ ο → Prop} :
      (∀ e ∈ tr, Q e) ↔ ∀ e tr', e :: tr' <:+ tr → Q e := by
    constructor
    · exact fun hq e tr' hsuf => hq e (hsuf.subset List.mem_cons_self)
    · intro hq e he
      obtain ⟨l₁, l₂, hl⟩ := List.append_of_mem he
      exact hq e l₂ ⟨l₁, hl.symm⟩
  rw [hmem, hmem]
  exact h.exact (I := fun _ s => I s) (P := fun _ s => P s) (C := fun _ s l => C s l) h0
    (fun _ s => hip s) hs

end System

end Runs
