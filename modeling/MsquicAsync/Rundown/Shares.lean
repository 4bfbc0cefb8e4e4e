import MsquicAsync.Lib.Weights
import MsquicAsync.Rundown.Handles

/-!
# Who holds what of an instance

Each owner, guard, handle, `Arc` of an inner and running callback of an instance
is held by somebody: the application, a queue, a task, or for the fields the
instance itself while it has an owner. `Fair` says that the counts of an instance
are the numbers of what is held.
-/

namespace MsquicAsync

open Weights

inductive Share where
  | owner
  | guard
  /-- A handle that is open. -/
  | native
  /-- A guard whose handle is not open yet. -/
  | unopened
  | inner
  | callback
  deriving DecidableEq

/-- What a task holds of instance `i`. -/
def Task.share (i : Nat) : Share → Task → Nat
  | .owner => fun task =>
    match task with
    | .enqueue _ owner | .drop owner => if owner.target = i then 1 else 0
    | _ => 0
  | .guard => fun task =>
    match task with
    | .openHandle j | .wrap _ j | .fromRaw _ j _ | .dropGuard j => if j = i then 1 else 0
    | _ => 0
  | .native => fun task =>
    match task with
    | .wrap _ j | .close j => if j = i then 1 else 0
    | _ => 0
  | .unopened => fun task =>
    match task with
    | .openHandle j | .fromRaw _ j _ => if j = i then 1 else 0
    | _ => 0
  | .inner => fun task =>
    match task with
    | .openHandle j | .fromRaw _ j _ => if j = i then 2 else 0
    | .wrap _ j | .dropInner j => if j = i then 1 else 0
    | _ => 0
  | .callback => fun task =>
    match task with
    | .wrap (some j) _ | .configure j _ | .closeArgument j | .fromRaw j _ _ | .enqueue j _
    | .endCallback j => if j = i then 1 else 0
    | _ => 0

/-- What a task holds must be covered by a guard: an open handle, or the right to open it. -/
def Task.claim (i : Nat) (task : Task) : Nat := task.share i .native + task.share i .unopened

def Instance.guards (x : Instance) : Nat := if x.guard then 1 else 0

def Instance.opens (x : Instance) : Nat := if x.native = .opened then 1 else 0

@[simp] theorem Instance.guards_mk (kind : HandleKind) (strong innerStrong : Nat) (native : Native)
    (guard : Bool) (callbacks : Nat) (queues : QueueName → List Owner) :
    (Instance.mk kind strong innerStrong native guard callbacks queues).guards =
      if guard then 1 else 0 := rfl

@[simp] theorem Instance.opens_mk (kind : HandleKind) (strong innerStrong : Nat) (native : Native)
    (guard : Bool) (callbacks : Nat) (queues : QueueName → List Owner) :
    (Instance.mk kind strong innerStrong native guard callbacks queues).opens =
      if native = .opened then 1 else 0 := rfl

section

variable (x : Instance) (q : QueueName) (l : List Owner)

@[simp] theorem Instance.strong_setQueue : (x.setQueue q l).strong = x.strong := rfl
@[simp] theorem Instance.innerStrong_setQueue :
    (x.setQueue q l).innerStrong = x.innerStrong := rfl
@[simp] theorem Instance.callbacks_setQueue : (x.setQueue q l).callbacks = x.callbacks := rfl
@[simp] theorem Instance.guards_setQueue : (x.setQueue q l).guards = x.guards := rfl
@[simp] theorem Instance.opens_setQueue : (x.setQueue q l).opens = x.opens := rfl

end

/-- The owners of instance `i` in a list. -/
def ownersOf (i : Nat) (l : List Owner) : Nat := l.countP fun owner => owner.target = i

theorem Instance.mem_queued {x : Instance} {owner : Owner} :
    owner ∈ x.queued ↔ ∃ q, owner ∈ x.queues q := by
  simp only [queued, List.mem_append]
  constructor
  · rintro (h | h | h)
    · exact ⟨_, h⟩
    · exact ⟨_, h⟩
    · exact ⟨_, h⟩
  · rintro ⟨q, h⟩
    cases q with
    | newConnections => exact .inl h
    | inboundStreams => exact .inr (.inl h)
    | inboundUniStreams => exact .inr (.inr h)

theorem Instance.ownersOf_setQueue (x : Instance) (q : QueueName) (l : List Owner) (j : Nat) :
    ownersOf j (x.setQueue q l).queued + ownersOf j (x.queues q) =
      ownersOf j x.queued + ownersOf j l := by
  cases q <;> simp [setQueue, queued, ownersOf] <;> omega

@[simp] theorem ownersOf_nil (j : Nat) : ownersOf j [] = 0 := rfl

@[simp] theorem ownersOf_cons (owner : Owner) (l : List Owner) (j : Nat) :
    ownersOf j (owner :: l) = ownersOf j l + if owner.target = j then 1 else 0 := by
  simp [ownersOf, List.countP_cons]

theorem ownersOf_append (l l' : List Owner) (j : Nat) :
    ownersOf j (l ++ l') = ownersOf j l + ownersOf j l' := List.countP_append

theorem ownersOf_erase {owner : Owner} {l : List Owner} (h : owner ∈ l) (j : Nat) :
    ownersOf j (l.erase owner) + (if owner.target = j then 1 else 0) = ownersOf j l := by
  rw [← ownersOf_cons]
  exact ((List.perm_cons_erase h).countP_eq _).symm

theorem weight_map_drop (l : List Owner) (j : Nat) (k : Share) :
    weight (Task.share j k) (l.map .drop) = match k with | .owner => ownersOf j l | _ => 0 := by
  induction l with
  | nil => cases k <;> rfl
  | cons owner l ih =>
    rw [List.map_cons, weight_cons, ih]
    cases k <;> simp [Task.share, ownersOf, List.countP_cons, Nat.add_comm]

/-- The counts of an instance are the numbers of what is held. -/
structure Fair (x : Instance) (n : Share → Nat) : Prop where
  strong : x.strong = n .owner
  guards : x.guards = min x.strong 1 + n .guard
  opens : x.opens = min x.strong 1 + n .native
  /-- The closure of an open handle holds the inner too. -/
  inner : x.innerStrong = min x.strong 1 + x.opens + n .inner
  callbacks : x.callbacks = n .callback
  running : x.callbacks ≠ 0 → x.opens = 1
  queued : x.innerStrong = 0 → x.queued = []

/-- `x` turns into `y`, and of what is held of it `a` goes and `b` comes. -/
structure Becomes (x y : Instance) (a b : Share → Nat) : Prop where
  strong : y.strong + a .owner = x.strong + b .owner
  guards : y.guards + min x.strong 1 + a .guard = x.guards + min y.strong 1 + b .guard
  opens : y.opens + min x.strong 1 + a .native = x.opens + min y.strong 1 + b .native
  inner : y.innerStrong + min x.strong 1 + x.opens + a .inner =
    x.innerStrong + min y.strong 1 + y.opens + b .inner
  callbacks : y.callbacks + a .callback = x.callbacks + b .callback
  running : y.callbacks ≠ 0 → y.opens = 1
  queued : y.innerStrong = 0 → y.queued = []

theorem Fair.becomes {x y : Instance} {n m a b : Share → Nat} (h : Fair x n)
    (hb : Becomes x y a b) (hm : ∀ k, m k + a k = n k + b k) : Fair y m := by
  obtain ⟨h₁, h₂, h₃, h₄, h₅, -, -⟩ := h
  obtain ⟨b₁, b₂, b₃, b₄, b₅, b₆, b₇⟩ := hb
  have howner := hm .owner
  have hguard := hm .guard
  have hnative := hm .native
  have hinner := hm .inner
  have hcallback := hm .callback
  refine ⟨?_, ?_, ?_, ?_, ?_, b₆, b₇⟩ <;> omega

theorem Instance.guards_le (x : Instance) : x.guards ≤ 1 := by
  unfold guards
  split <;> omega

theorem Instance.opens_le (x : Instance) : x.opens ≤ 1 := by
  unfold opens
  split <;> omega

namespace HandleSys

/-- How much of instance `i` all of them hold. -/
def shares (s : HandleSys) (i : Nat) (k : Share) : Nat :=
  total (Task.share i k) s.threads +
    match k with
    | .owner => ownersOf i s.held + weight (fun x => ownersOf i x.queued) s.instances
    | _ => 0

variable {s : HandleSys} {i j t : Nat} {x : Instance} {k : Share} {task : Task}
  {rest new st : List Task}

@[simp] theorem inst_resume (st : List Task) : (s.resume t st).inst j = s.inst j := rfl
@[simp] theorem inst_spawn (st : List Task) : (s.spawn st).inst j = s.inst j := rfl

theorem inst_set_ne (h : j ≠ i) (x : Instance) : (s.set i x).inst j = s.inst j := by
  simp only [inst, set, List.getElem?_set_ne (Ne.symm h)]

theorem inst_set_self (h : i < s.instances.length) (x : Instance) : (s.set i x).inst i = x := by
  simp only [inst, set, List.getElem?_set_self h, Option.getD_some]

theorem inst_eq (h : i < s.instances.length) : s.instances[i]? = some (s.inst i) := by
  simp only [inst, List.getElem?_eq_getElem h, Option.getD_some]

theorem inst_of_le (h : s.instances.length ≤ i) : s.inst i = {} := by
  simp only [inst, List.getElem?_eq_none h, Option.getD_none]

theorem inst_reserve_ne (h : j ≠ s.instances.length) (kind : HandleKind) :
    (s.reserve kind).inst j = s.inst j := by
  simp only [inst, reserve]
  rcases Nat.lt_or_gt_of_ne h with h | h
  · rw [List.getElem?_append_left h]
  · rw [List.getElem?_eq_none (by simp; omega), List.getElem?_eq_none (Nat.le_of_lt h)]

theorem inst_reserve_self (kind : HandleKind) : (s.reserve kind).inst s.instances.length =
    { kind := kind, innerStrong := 2, guard := true } := by
  simp [inst, reserve]

theorem shares_resume (ht : s.threads[t]? = some (task :: rest)) (new : List Task) (j : Nat)
    (k : Share) : (s.resume t (new ++ rest)).shares j k + task.share j k =
      s.shares j k + weight (Task.share j k) new := by
  have := total_set (w := Task.share j k) ht new
  simp only [shares, resume]
  omega

theorem shares_spawn (st : List Task) (j : Nat) (k : Share) :
    (s.spawn st).shares j k = s.shares j k + weight (Task.share j k) st := by
  have := total_push (w := Task.share j k) s.threads st
  simp only [shares, spawn]
  omega

theorem shares_reserve (kind : HandleKind) (j : Nat) (k : Share) :
    (s.reserve kind).shares j k = s.shares j k := by
  cases k <;> simp [shares, reserve, Instance.queued, ownersOf]

/-- What an instance's queues hold of instance `j`. -/
def queueShare (x : Instance) (j : Nat) : Share → Nat
  | .owner => ownersOf j x.queued
  | _ => 0

theorem shares_set (h : i < s.instances.length) (x : Instance) (j : Nat) (k : Share) :
    (s.set i x).shares j k + queueShare (s.inst i) j k = s.shares j k + queueShare x j k := by
  have hw := weight_set (w := fun x => ownersOf j x.queued) (inst_eq h) x
  cases k with
  | owner =>
    simp only [shares, set, queueShare] at hw ⊢
    omega
  | _ => rfl

/-- What the application holds of instance `j`. -/
def heldShare (l : List Owner) (j : Nat) : Share → Nat
  | .owner => ownersOf j l
  | _ => 0

theorem shares_held (l : List Owner) (j : Nat) (k : Share) :
    ({ s with held := l } : HandleSys).shares j k + heldShare s.held j k =
      s.shares j k + heldShare l j k := by
  cases k with
  | owner =>
    simp only [shares, heldShare]
    omega
  | _ => rfl

end HandleSys

end MsquicAsync
