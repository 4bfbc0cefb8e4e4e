import MsquicAsync.Lib.Runs

/-!
# Devices that refuse

A device is a partial automaton: it takes some operations in some states and
refuses the others. A system that drives one asks it something in each step
(`asked`). `Run.follows` is the rule for "no operation is ever refused": relate
the states of the two, and show that a step asks only what the device takes and
leaves the two related.
-/

namespace Runs

structure Device (μ α : Type*) where
  init : μ
  /-- `none`: the device refuses. -/
  step : μ → α → Option μ

variable {σ ℓ ο μ α : Type*}

namespace Device

variable (D : Device μ α)

/-- Ask for the operations of a list, in its order. -/
def run (m : μ) (l : List α) : Option μ := l.foldlM D.step m

@[simp] theorem run_nil (m : μ) : D.run m [] = some m := rfl

@[simp] theorem run_cons (m : μ) (a : α) (l : List α) :
    D.run m (a :: l) = (D.step m a).bind fun m => D.run m l := by
  simp only [run, List.foldlM_cons, Option.bind_eq_bind]

theorem run_append (m : μ) (l l' : List α) :
    D.run m (l ++ l') = (D.run m l).bind fun m => D.run m l' := by
  simp only [run, List.foldlM_append, Option.bind_eq_bind]

end Device

variable (ops : Step σ ℓ ο → List α)

/-- What a history has asked the device, in order. -/
def asked (tr : List (Step σ ℓ ο)) : List α := tr.reverse.flatMap ops

@[simp] theorem asked_nil : asked ops [] = [] := rfl

theorem asked_cons (e : Step σ ℓ ο) (tr : List (Step σ ℓ ο)) :
    asked ops (e :: tr) = asked ops tr ++ ops e := by
  simp [asked]

/-- The device after a history, if it has refused nothing. -/
def Device.after (D : Device μ α) (tr : List (Step σ ℓ ο)) : Option μ := D.run D.init (asked ops tr)

theorem Device.after_cons (D : Device μ α) (e : Step σ ℓ ο) (tr : List (Step σ ℓ ο)) :
    D.after ops (e :: tr) = (D.after ops tr).bind fun m => D.run m (ops e) := by
  rw [after, asked_cons, run_append]
  rfl

variable {ops} {S : System σ ℓ ο} {D : Device μ α} {tr : List (Step σ ℓ ο)} {s : σ}

/-- **The rule of a driver**: a step that keeps the two related asks nothing that is refused. -/
theorem System.Run.follows {T : List (Step σ ℓ ο) → σ → μ → Prop} (h : S.Run tr s)
    (h0 : ∀ s, S.init s → T [] s D.init)
    (hs : ∀ tr s l m, S.Run tr s → S.ok tr s l → D.after ops tr = some m → T tr s m →
      ∃ m', D.run m (ops (S.take s l)) = some m' ∧ T (S.take s l :: tr) (S.next s l).1 m') :
    ∃ m, D.after ops tr = some m ∧ T tr s m := by
  refine h.invariant (I := fun tr s => ∃ m, D.after ops tr = some m ∧ T tr s m)
    (fun s hi => ⟨D.init, rfl, h0 s hi⟩) ?_
  rintro tr s l hr hok ⟨m, hm, hT⟩
  obtain ⟨m', hm', hT'⟩ := hs tr s l m hr hok hm hT
  exact ⟨m', by rw [Device.after_cons, hm, Option.bind_some, hm'], hT'⟩

/-- The runs on which a quantity that no step changes has the value `b`. -/
def System.on {β : Type*} (S : System σ ℓ ο) (f : σ → β) (b : β) : System σ ℓ ο where
  init s := S.init s ∧ f s = b
  ok := S.ok
  next := S.next

theorem System.Run.on {β : Type*} {f : σ → β} (hf : ∀ s l, f (S.next s l).1 = f s)
    (h : S.Run tr s) : (S.on f (f s)).Run tr s := by
  induction h with
  | start hi => exact .start ⟨hi, rfl⟩
  | step l _ hok ih =>
    rw [hf]
    exact Run.step (S := S.on f _) l ih hok

end Runs
