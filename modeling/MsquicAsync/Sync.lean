import Mathlib.Data.List.Basic

/-!
# Polls, wakers and calls under a lock

Every entry point of the crate takes one mutex, changes the state behind it and
returns. A modelled entry point is a function to a `Ran`: the state it leaves,
and what it shows outside (`Out`): its result, the wakers it woke and the native
calls it made, in order.
-/

namespace MsquicAsync

inductive Poll (α : Type) where
  | ready (a : α)
  | pending
  deriving DecidableEq, Repr

namespace Poll

variable {α β : Type}

def map (f : α → β) : Poll α → Poll β
  | ready a => ready (f a)
  | pending => pending

@[simp] theorem map_ready (f : α → β) (a : α) : (ready a).map f = ready (f a) := rfl
@[simp] theorem map_pending (f : α → β) : (pending : Poll α).map f = pending := rfl

@[simp] theorem map_eq_pending {f : α → β} {x : Poll α} : x.map f = pending ↔ x = pending := by
  cases x <;> simp

end Poll

/-- How a call ends: it returns, or it panics with a message. -/
inductive Outcome (α : Type) where
  | returned (a : α)
  | panicked (message : String)
  deriving DecidableEq, Repr

def Outcome.Panics {α : Type} : Outcome α → Prop
  | .returned _ => False
  | .panicked _ => True

/-- `Option::expect`. -/
def expect {α : Type} (x : Option α) (message : String) : Outcome α :=
  match x with
  | some a => .returned a
  | none => .panicked message

def Outcome.map {α β : Type} (f : α → β) : Outcome α → Outcome β
  | .returned a => .returned (f a)
  | .panicked m => .panicked m

@[simp] theorem Outcome.map_returned {α β : Type} (f : α → β) (a : α) :
    (Outcome.returned a).map f = .returned (f a) := rfl

@[simp] theorem Outcome.map_panicked {α β : Type} (f : α → β) (m : String) :
    (Outcome.panicked m : Outcome α).map f = .panicked m := rfl

def Outcome.bind {α β : Type} (x : Outcome α) (f : α → Outcome β) : Outcome β :=
  match x with
  | .returned a => f a
  | .panicked m => .panicked m

@[simp] theorem Outcome.bind_returned {α β : Type} (a : α) (f : α → Outcome β) :
    (Outcome.returned a).bind f = f a := rfl

@[simp] theorem Outcome.bind_panicked {α β : Type} (m : String) (f : α → Outcome β) :
    (Outcome.panicked m : Outcome α).bind f = .panicked m := rfl

/-- What can be seen of a call from outside the lock. -/
structure Out (ω κ ρ : Type) where
  result : ρ
  /-- The wakers it woke. -/
  woken : List ω := []
  /-- The native calls it made. -/
  calls : List κ := []

/-- What a call under the lock leaves behind. -/
structure Ran (σ ω κ ρ : Type) extends Out ω κ ρ where
  state : σ

namespace Ran

variable {σ τ ω κ ρ ρ' : Type}

/-- The same call, its state put in a larger one and its result read as another type. -/
def lift (r : Ran σ ω κ ρ) (f : σ → τ) (g : ρ → ρ') : Ran τ ω κ ρ' where
  state := f r.state
  result := g r.result
  woken := r.woken
  calls := r.calls

@[simp] theorem lift_state (r : Ran σ ω κ ρ) (f : σ → τ) (g : ρ → ρ') :
    (r.lift f g).state = f r.state := rfl
@[simp] theorem lift_result (r : Ran σ ω κ ρ) (f : σ → τ) (g : ρ → ρ') :
    (r.lift f g).result = g r.result := rfl
@[simp] theorem lift_woken (r : Ran σ ω κ ρ) (f : σ → τ) (g : ρ → ρ') :
    (r.lift f g).woken = r.woken := rfl
@[simp] theorem lift_calls (r : Ran σ ω κ ρ) (f : σ → τ) (g : ρ → ρ') :
    (r.lift f g).calls = r.calls := rfl

end Ran

/-- Wakers, compared by `Waker::will_wake`. -/
class WillWake (ω : Type) where
  willWake : ω → ω → Bool

export WillWake (willWake)

/-- Wakers named by the number of their task. -/
instance : WillWake Nat := ⟨fun a b => a == b⟩

section

variable {ω : Type} [WillWake ω]

/-- Record `cx`'s waker unless one already there wakes the same task. -/
def registerWaker (waiters : List ω) (cx : ω) : List ω :=
  if waiters.any fun waiter => willWake waiter cx then waiters else waiters ++ [cx]

/-- Waking `w` wakes the task of `cx`. -/
def Wakes (w cx : ω) : Prop := w = cx ∨ willWake w cx = true

/-- After registration some waker of the list wakes the task, and no waker was lost. -/
theorem exists_wakes_registerWaker (waiters : List ω) (cx : ω) :
    ∃ w ∈ registerWaker waiters cx, Wakes w cx := by
  unfold registerWaker
  split
  · next h =>
    obtain ⟨w, hw, hww⟩ := List.any_eq_true.mp h
    exact ⟨w, hw, .inr hww⟩
  · exact ⟨cx, by simp, .inl rfl⟩

theorem mem_registerWaker {waiters : List ω} {cx w : ω} (h : w ∈ waiters) :
    w ∈ registerWaker waiters cx := by
  unfold registerWaker
  split
  · exact h
  · exact List.mem_append_left _ h

/-- No two wakers of the list wake one task. -/
def Distinct (waiters : List ω) : Prop := waiters.Pairwise fun a b => willWake a b = false

theorem distinct_registerWaker {waiters : List ω} (h : Distinct waiters) (cx : ω) :
    Distinct (registerWaker waiters cx) := by
  unfold registerWaker
  split
  · exact h
  · next hnew =>
    refine List.pairwise_append.mpr ⟨h, List.pairwise_singleton _ _, ?_⟩
    intro w hw w' hw'
    obtain rfl := List.mem_singleton.mp hw'
    simpa using fun hww => hnew (List.any_eq_true.mpr ⟨w, hw, hww⟩)

/-- `will_wake` is an equivalence: it holds of two wakers of one task. -/
def WillWakeEquivalence (ω : Type) [WillWake ω] : Prop :=
  Equivalence fun a b : ω => willWake a b = true

/-- Where `will_wake` is an equivalence, a task has at most one waker in such a list. -/
theorem Distinct.countP_le_one (hw : WillWakeEquivalence ω) {waiters : List ω}
    (h : Distinct waiters) (cx : ω) : waiters.countP (willWake · cx) ≤ 1 := by
  induction waiters with
  | nil => exact Nat.zero_le 1
  | cons w waiters ih =>
    obtain ⟨hnew, hrest⟩ := List.pairwise_cons.mp h
    by_cases hcx : willWake w cx = true
    · -- nobody else wakes the task that `w` wakes
      have hnone : waiters.countP (willWake · cx) = 0 := by
        apply List.countP_eq_zero.mpr
        intro w' hw' hcx'
        have hww := hw.trans hcx (hw.symm hcx')
        rw [hnew w' hw'] at hww
        cases hww
      have hone : (w :: waiters).countP (willWake · cx) = 1 := by
        rw [List.countP_cons, hnone, if_pos hcx]
      exact Nat.le_of_eq hone
    · rw [List.countP_cons, if_neg hcx]
      exact ih hrest

end

end MsquicAsync
