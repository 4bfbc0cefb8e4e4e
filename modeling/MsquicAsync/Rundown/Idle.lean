import MsquicAsync.Rundown.Shares

/-!
# A count of 0 is idle

The counts of every instance are what tasks, queues and the application hold of
it (`Fair`), and below an open handle its stack has a guard left (`StackOk`): the
fields drop the handle first. So a count of 0, which is no guard, leaves no open
handle (`wait_idle_sound`). What a queue owns is younger than the instance whose
inner has the queue, so nothing keeps itself alive.
-/

namespace MsquicAsync

open Runs Weights

/-- What a callback makes is younger than the instance whose inner is to own it. -/
def Task.ParentFirst : Task → Prop
  | wrap (some parent) i | fromRaw parent i _ => parent < i
  | enqueue parent created => parent < created.target
  | _ => True

/-- From every depth of the stack on, a guard is left for each open handle. -/
structure StackOk (st : List Task) : Prop where
  covered : ∀ i, Covered (Task.claim i) (Task.share i .guard) st
  parentFirst : ∀ task ∈ st, task.ParentFirst

namespace StackOk

variable {st new : List Task} {task : Task}

theorem tail (h : StackOk (task :: st)) : StackOk st :=
  ⟨fun i => (h.covered i).tail, fun a ha => h.parentFirst a (List.mem_cons_of_mem _ ha)⟩

theorem push (hn : StackOk new) (h : StackOk st) : StackOk (new ++ st) where
  covered i := (hn.covered i).push (h.covered i)
  parentFirst task ht := (List.mem_append.mp ht).elim (hn.parentFirst task) (h.parentFirst task)

theorem of_all (h : ∀ task ∈ st, task.ParentFirst ∧ ∀ i, task.claim i ≤ task.share i .guard) :
    StackOk st where
  covered i := covered_of_le fun task ht => (h task ht).2 i
  parentFirst task ht := (h task ht).1

theorem one (hp : task.ParentFirst) (hc : ∀ i, task.claim i ≤ task.share i .guard) :
    StackOk [task] :=
  of_all fun _ ht => List.mem_singleton.mp ht ▸ ⟨hp, hc⟩

theorem fields (i : Nat) : StackOk (fields i) where
  covered j := by
    simp only [MsquicAsync.fields, Covered, weight_cons, weight_nil, Task.claim, Task.share]
    refine ⟨?_, ?_, ?_, trivial⟩ <;> omega
  parentFirst task ht := by
    simp only [MsquicAsync.fields, List.mem_cons, List.not_mem_nil, or_false] at ht
    rcases ht with rfl | rfl | rfl <;> trivial

end StackOk

namespace HandleSys

/-- What every step keeps. -/
structure Inv (s : HandleSys) : Prop where
  active : s.active = weight Instance.guards s.instances
  fair : ∀ i, Fair (s.inst i) (s.shares i)
  threads : ∀ st ∈ s.threads, StackOk st
  parents : ∀ i, ∀ owner ∈ (s.inst i).queued, i < owner.target

variable {s s' : HandleSys} {i j t : Nat} {x : Instance} {k : Share} {task : Task}
  {rest new st : List Task}

theorem Inv.claims (h : s.Inv) (i : Nat) :
    s.shares i .native + s.shares i .unopened ≤ s.shares i .guard := by
  have hle := total_le (v := Task.claim i) fun st hst => (h.threads st hst).covered i
  have hadd : total (Task.claim i) s.threads = _ :=
    total_add (v := Task.share i .native) (w := Task.share i .unopened)
  simp only [shares]
  omega

theorem share_le (ht : s.threads[t]? = some (task :: rest)) (i : Nat) (k : Share) :
    task.share i k ≤ s.shares i k := by
  have := le_total (w := Task.share i k) (List.mem_of_getElem? ht) List.mem_cons_self
  simp only [shares]
  omega

theorem Inv.lt_of_shares (h : s.Inv) (hk : 0 < s.shares i k) : i < s.instances.length := by
  by_contra hi
  have hf := h.fair i
  rw [inst_of_le (Nat.le_of_not_lt hi)] at hf
  obtain ⟨h₁, h₂, h₃, h₄, h₅, -, -⟩ := hf
  have h₆ := h.claims i
  simp only [Instance.guards, Instance.opens] at h₂ h₃ h₄
  cases k <;> simp at * <;> omega

/-- A step that changes one instance, and who holds what of it. -/
theorem Inv.change (h : s.Inv) (hi : i < s.instances.length) (x : Instance)
    (hx : s'.instances = s.instances.set i x)
    (ha : s'.active + (s.inst i).guards = s.active + x.guards)
    (hst : ∀ st ∈ s'.threads, StackOk st) (hq : ∀ owner ∈ x.queued, i < owner.target)
    (hother : ∀ j k, j ≠ i → s'.shares j k = s.shares j k) (hf : Fair x (s'.shares i)) :
    s'.Inv := by
  have hset (j : Nat) : s'.inst j = (s.set i x).inst j := by
    simp only [inst, set, hx]
  refine ⟨?_, fun j => ?_, hst, fun j => ?_⟩
  · have hw := weight_set (w := Instance.guards) (inst_eq hi) x
    have := h.active
    rw [hx]
    omega
  · rw [hset]
    by_cases hj : j = i
    · subst hj
      rw [inst_set_self hi]
      exact hf
    · rw [inst_set_ne hj, show s'.shares j = s.shares j from funext fun k => hother j k hj]
      exact h.fair j
  · rw [hset]
    by_cases hj : j = i
    · subst hj
      rw [inst_set_self hi]
      exact hq
    · rw [inst_set_ne hj]
      exact h.parents j

theorem Inv.same (h : s.Inv) (hx : s'.instances = s.instances) (ha : s'.active = s.active)
    (hst : ∀ st ∈ s'.threads, StackOk st) (hs : ∀ j k, s'.shares j k = s.shares j k) :
    s'.Inv := by
  have hinst (j : Nat) : s'.inst j = s.inst j := by
    simp only [inst, hx]
  refine ⟨by rw [ha, hx]; exact h.active, fun j => ?_, hst, fun j => ?_⟩
  · rw [hinst, show s'.shares j = s.shares j from funext (hs j)]
    exact h.fair j
  · rw [hinst]
    exact h.parents j

theorem Inv.reserve (h : s.Inv) (kind : HandleKind)
    (hx : s'.instances = (s.reserve kind).instances) (ha : s'.active = s.active + 1)
    (hst : ∀ st ∈ s'.threads, StackOk st)
    (hs : ∀ j k, s'.shares j k = s.shares j k + if j = s.instances.length then
      (match k with | .guard | .unopened => 1 | .inner => 2 | _ => 0) else 0) : s'.Inv := by
  have hinst (j : Nat) : s'.inst j = (s.reserve kind).inst j := by
    simp only [inst, hx]
  refine ⟨?_, fun j => ?_, hst, fun j => ?_⟩
  · rw [ha, hx, h.active]
    simp [HandleSys.reserve, Instance.guards]
  · rw [hinst]
    by_cases hj : j = s.instances.length
    · have hzero (k : Share) : s.shares j k = 0 := by
        by_contra hk
        have := h.lt_of_shares (Nat.pos_of_ne_zero hk)
        omega
      subst hj
      rw [inst_reserve_self]
      constructor <;> simp [hs, hzero, Instance.guards, Instance.opens, Instance.queued]
    · rw [inst_reserve_ne hj, show s'.shares j = s.shares j from
        funext fun k => by rw [hs, if_neg hj, Nat.add_zero]]
      exact h.fair j
  · rw [hinst]
    by_cases hj : j = s.instances.length
    · subst hj
      rw [inst_reserve_self]
      simp [Instance.queued]
    · rw [inst_reserve_ne hj]
      exact h.parents j

theorem Inv.stacks_resume (h : s.Inv) (ht : s.threads[t]? = some (task :: rest)) (new : List Task)
    (hn : StackOk new) : ∀ st ∈ s.threads.set t (new ++ rest), StackOk st := by
  intro st hst
  rcases List.mem_or_eq_of_mem_set hst with hst | rfl
  · exact h.threads st hst
  · exact hn.push (h.threads _ (List.mem_of_getElem? ht)).tail

theorem Inv.no_owner (h : s.Inv) (hg : 0 < s.shares i .guard) : (s.inst i).strong = 0 := by
  have := (h.fair i).guards
  have := (s.inst i).guards_le
  omega

theorem Inv.not_open (h : s.Inv) (hu : 0 < s.shares i .unopened) :
    (s.inst i).strong = 0 ∧ (s.inst i).opens = 0 := by
  have hc := h.claims i
  have hs := h.no_owner (i := i) (by omega)
  have hg := (h.fair i).guards
  have ho := (h.fair i).opens
  have := (s.inst i).guards_le
  omega

/-- A thread does a task: what the task and the queues held goes to the new tasks and queues. -/
theorem Inv.work (h : s.Inv) (ht : s.threads[t]? = some (task :: rest)) (new : List Task)
    (active : Nat) (hi : i < s.instances.length) {y : Instance} (hn : StackOk new)
    (ha : active + (s.inst i).guards = s.active + y.guards)
    (hq : ∀ owner ∈ y.queued, i < owner.target)
    (hother : ∀ j k, j ≠ i → task.share j k + queueShare (s.inst i) j k =
      weight (Task.share j k) new + queueShare y j k)
    (hb : Becomes (s.inst i) y (fun k => task.share i k + queueShare (s.inst i) i k)
      (fun k => weight (Task.share i k) new + queueShare y i k)) :
    ({ s.set i y with active := active }.resume t (new ++ rest)).Inv := by
  have hs (j : Nat) (k : Share) :
      ({ s.set i y with active := active }.resume t (new ++ rest)).shares j k +
        (task.share j k + queueShare (s.inst i) j k) =
      s.shares j k + (weight (Task.share j k) new + queueShare y j k) := by
    have h₁ := shares_resume (s := { s.set i y with active := active }) ht new j k
    have h₂ : ({ s.set i y with active := active } : HandleSys).shares j k + _ = _ :=
      shares_set hi y j k
    omega
  refine h.change hi y rfl ha (h.stacks_resume ht new hn) hq (fun j k hj => ?_)
    ((h.fair i).becomes hb (hs i))
  have := hs j k
  have := hother j k hj
  omega

theorem Inv.workSame (h : s.Inv) (ht : s.threads[t]? = some (task :: rest)) (new : List Task)
    (hi : i < s.instances.length) {y : Instance} (hn : StackOk new)
    (hg : y.guards = (s.inst i).guards) (hq : y.queues = (s.inst i).queues)
    (hother : ∀ j k, j ≠ i → task.share j k = weight (Task.share j k) new)
    (hb : Becomes (s.inst i) y (fun k => task.share i k) (fun k => weight (Task.share i k) new)) :
    ((s.set i y).resume t (new ++ rest)).Inv := by
  have hqueued : y.queued = (s.inst i).queued := by
    simp only [Instance.queued, hq]
  have hshare (j : Nat) (k : Share) : queueShare y j k = queueShare (s.inst i) j k := by
    cases k <;> simp only [queueShare, hqueued]
  refine h.work ht new s.active hi hn (by rw [hg]) (hqueued ▸ h.parents i)
    (fun j k hj => by rw [hother j k hj, hshare]) ?_
  obtain ⟨b₁, b₂, b₃, b₄, b₅, b₆, b₇⟩ := hb
  refine ⟨?_, ?_, ?_, ?_, ?_, b₆, b₇⟩ <;> rw [hshare] <;> omega

theorem Inv.opened (h : s.Inv) (ht : s.threads[t]? = some (task :: rest)) {parent : Option Nat}
    (htask : task = .openHandle i ∧ parent = none ∨
      ∃ p owned, task = .fromRaw p i owned ∧ parent = some p) :
    ((s.set i { s.inst i with native := .opened }).resume t (.wrap parent i :: rest)).Inv := by
  have hu : 0 < s.shares i .unopened := by
    have := share_le ht i .unopened
    rcases htask with ⟨rfl, -⟩ | ⟨p, owned, rfl, -⟩ <;> simp [Task.share] at this <;> omega
  obtain ⟨hstrong, hclosed⟩ := h.not_open hu
  refine h.workSame ht [.wrap parent i] (h.lt_of_shares hu) (.one ?_ fun j => ?_) rfl rfl
    (fun j k hj => ?_) ?_
  · have hp := (h.threads _ (List.mem_of_getElem? ht)).parentFirst task List.mem_cons_self
    rcases htask with ⟨rfl, rfl⟩ | ⟨p, owned, rfl, rfl⟩
    · trivial
    · exact hp
  · simp only [Task.claim, Task.share]
    omega
  · rcases htask with ⟨rfl, rfl⟩ | ⟨p, owned, rfl, rfl⟩ <;>
      cases k <;> simp [Task.share, Ne.symm hj]
  · have hinner := (h.fair i).inner
    have hle := share_le ht i .inner
    rcases htask with ⟨rfl, rfl⟩ | ⟨p, owned, rfl, rfl⟩ <;> simp [Task.share] at hle <;>
      constructor <;> simp [Task.share, hstrong, hclosed, Instance.guards] <;> omega

/-- An open fails: the closure is gone, the guard and the inner are still to be dropped. -/
theorem Inv.openFailed (h : s.Inv) (ht : s.threads[t]? = some (.openHandle i :: rest)) :
    ((s.set i { s.inst i with innerStrong := (s.inst i).innerStrong - 1 }).resume t
      ((s.inst i).kind.unwind i ++ rest)).Inv := by
  have hu : 0 < s.shares i .unopened := by
    have := share_le ht i .unopened
    simp [Task.share] at this
    omega
  have hunwind (j : Nat) (k : Share) : weight (Task.share j k) ((s.inst i).kind.unwind i) =
      (Task.dropGuard i).share j k + (Task.dropInner i).share j k := by
    unfold HandleKind.unwind
    split <;> simp [Nat.add_comm]
  refine h.workSame ht _ (h.lt_of_shares hu) (.of_all fun task htask => ?_) rfl rfl
    (fun j k hj => ?_) ?_
  · have hcases : task = .dropGuard i ∨ task = .dropInner i := by
      unfold HandleKind.unwind at htask
      split at htask <;> simp at htask <;> tauto
    rcases hcases with rfl | rfl <;> simp [Task.ParentFirst, Task.claim, Task.share]
  · rw [hunwind]
    cases k <;> simp [Task.share, Ne.symm hj]
  · have hle := share_le ht i .inner
    have hinner := (h.fair i).inner
    simp [Task.share] at hle
    have hpos : (s.inst i).innerStrong - 1 ≠ 0 := by omega
    refine ⟨?_, ?_, ?_, ?_, ?_, (h.fair i).running, fun h0 => absurd h0 hpos⟩
    all_goals
      simp only [hunwind]
      simp [Task.share, Instance.guards, Instance.opens]
      try omega

theorem Inv.wrap_fresh (h : s.Inv) {parent : Option Nat}
    (ht : s.threads[t]? = some (.wrap parent i :: rest)) :
    i < s.instances.length ∧ (s.inst i).strong = 0 ∧ 0 < s.shares i .inner := by
  have hle := share_le ht i
  have hg := hle .guard
  have hi := hle .inner
  simp [Task.share] at hg hi
  exact ⟨h.lt_of_shares hg, h.no_owner hg, hi⟩

theorem Inv.wrapped (h : s.Inv) {parent : Nat} {wrapper : Wrapper}
    (ht : s.threads[t]? = some (.wrap (some parent) i :: rest)) :
    ((s.set i { s.inst i with strong := 1 }).resume t
      (.enqueue parent ⟨wrapper, i⟩ :: rest)).Inv := by
  obtain ⟨hi, hstrong, hinner⟩ := h.wrap_fresh ht
  have hp := (h.threads _ (List.mem_of_getElem? ht)).parentFirst _ List.mem_cons_self
  refine h.workSame ht [.enqueue parent ⟨wrapper, i⟩] hi (.one hp fun j => ?_) rfl rfl
    (fun j k hj => ?_) ⟨?_, ?_, ?_, ?_, ?_, (h.fair i).running, fun h0 => ?_⟩
  · simp [Task.claim, Task.share]
  · cases k <;> simp [Task.share, Ne.symm hj]
  case refine_8 =>
    have := (h.fair i).inner
    replace h0 : (s.inst i).innerStrong = 0 := h0
    omega
  all_goals simp [Task.share, hstrong, Instance.guards, Instance.opens] <;> omega

theorem Inv.returned (h : s.Inv) {wrapper : Wrapper}
    (ht : s.threads[t]? = some (.wrap none i :: rest)) :
    ({ s.set i { s.inst i with strong := 1 } with
      held := ⟨wrapper, i⟩ :: s.held }.resume t rest).Inv := by
  obtain ⟨hi, hstrong, hinner⟩ := h.wrap_fresh ht
  let s₁ := { s.set i { s.inst i with strong := 1 } with held := ⟨wrapper, i⟩ :: s.held }
  have hs (j : Nat) (k : Share) : (s₁.resume t rest).shares j k +
      ((Task.wrap none i).share j k + heldShare s.held j k) =
      s.shares j k + heldShare (⟨wrapper, i⟩ :: s.held) j k := by
    have h₁ := shares_resume (s := s₁) ht [] j k
    have h₂ : s₁.shares j k + heldShare s.held j k = _ :=
      shares_held (s := s.set i { s.inst i with strong := 1 }) _ j k
    have h₃ := shares_set hi { s.inst i with strong := 1 } j k
    have h₄ : queueShare { s.inst i with strong := 1 } j k = queueShare (s.inst i) j k := by
      cases k <;> rfl
    simp only [List.nil_append, weight_nil] at h₁
    omega
  refine h.change hi _ rfl rfl
    (h.stacks_resume ht [] (.of_all (by simp))) (h.parents i) (fun j k hj => ?_)
    ((h.fair i).becomes ⟨?_, ?_, ?_, ?_, ?_, (h.fair i).running, fun h0 => ?_⟩ (hs i))
  · have := hs j k
    cases k <;> simp [Task.share, heldShare, ownersOf, Ne.symm hj] at this <;> omega
  case refine_7 =>
    have := (h.fair i).inner
    replace h0 : (s.inst i).innerStrong = 0 := h0
    omega
  all_goals simp [Task.share, hstrong, heldShare, ownersOf, Instance.guards, Instance.opens] <;>
    omega

theorem Inv.calling (h : s.Inv) (hc : 0 < s.shares i .callback) :
    i < s.instances.length ∧ (s.inst i).opens = 1 ∧ (s.inst i).innerStrong ≠ 0 := by
  have hf := h.fair i
  have hcallbacks := hf.callbacks
  have hrunning := hf.running (by omega)
  have hinner := hf.inner
  exact ⟨h.lt_of_shares hc, hrunning, by omega⟩

theorem Inv.configured (h : s.Inv) {parent : Nat} {owned : Bool} (kind : HandleKind)
    (ht : s.threads[t]? = some (.configure parent owned :: rest)) :
    ((s.reserve kind).resume t (.fromRaw parent s.instances.length owned :: rest)).Inv := by
  have hp : parent < s.instances.length := by
    have hle := share_le ht parent .callback
    simp [Task.share] at hle
    exact (h.calling hle).1
  refine h.reserve kind rfl rfl
    (h.stacks_resume ht [_] (.one hp fun j => ?_)) fun j k => ?_
  · simp only [Task.claim, Task.share]
    omega
  · have h₁ := shares_resume (s := s.reserve kind) ht
      [.fromRaw parent s.instances.length owned] j k
    rw [shares_reserve] at h₁
    simp only [weight_cons, weight_nil, List.singleton_append] at h₁
    cases k <;> simp [Task.share, eq_comm (a := j)] at h₁ ⊢ <;> omega

theorem Inv.called (h : s.Inv) (ht : s.threads[t]? = some (task :: rest)) (new : List Task)
    (hn : StackOk new)
    (hs : ∀ j k, task.share j k = weight (Task.share j k) new) : (s.resume t (new ++ rest)).Inv := by
  refine h.same rfl rfl (h.stacks_resume ht new hn) fun j k => ?_
  have := shares_resume ht new j k
  have := hs j k
  omega

/-- A callback queues what it has made. -/
theorem Inv.pushed (h : s.Inv) {parent : Nat} {created created' : Owner} {q : QueueName}
    (ht : s.threads[t]? = some (.enqueue parent created :: rest))
    (hc : created'.target = created.target) : (s.push t parent q created' rest).Inv := by
  have hle := share_le ht parent .callback
  simp [Task.share] at hle
  obtain ⟨hi, -, hinner⟩ := h.calling hle
  have hp := (h.threads _ (List.mem_of_getElem? ht)).parentFirst _ List.mem_cons_self
  have hqueue (j : Nat) (k : Share) :
      queueShare ((s.inst parent).setQueue q ((s.inst parent).queues q ++ [created'])) j k =
        queueShare (s.inst parent) j k + (Task.drop created).share j k := by
    cases k with
    | owner =>
      have := (s.inst parent).ownersOf_setQueue q ((s.inst parent).queues q ++ [created']) j
      simp [ownersOf, hc] at this
      simp [queueShare, Task.share, ownersOf]
      omega
    | _ => rfl
  refine h.work ht [.endCallback parent] s.active hi (.one trivial fun j => ?_)
    rfl (fun owner hmem => ?_) (fun j k hj => ?_) ⟨?_, ?_, ?_, ?_, ?_, (h.fair parent).running,
      fun h0 => absurd h0 hinner⟩
  · simp [Task.claim, Task.share]
  · obtain ⟨q', hq'⟩ := Instance.mem_queued.mp hmem
    by_cases hqq : q' = q
    · simp only [Instance.setQueue, if_pos hqq, List.mem_append, List.mem_singleton] at hq'
      rcases hq' with hq' | rfl
      · exact h.parents parent owner (Instance.mem_queued.mpr ⟨q, hq'⟩)
      · rw [hc]
        exact hp
    · simp only [Instance.setQueue, if_neg hqq] at hq'
      exact h.parents parent owner (Instance.mem_queued.mpr ⟨q', hq'⟩)
  · rw [hqueue]
    cases k with
    | owner =>
      simp [Task.share]
      omega
    | _ => simp [Task.share]
  all_goals
    simp only [hqueue]
    simp [Task.share]
    try omega

theorem Inv.endCallback (h : s.Inv) {parent : Nat}
    (ht : s.threads[t]? = some (.endCallback parent :: rest)) :
    ((s.set parent { s.inst parent with callbacks := (s.inst parent).callbacks - 1 }).resume t
      rest).Inv := by
  have hle := share_le ht parent .callback
  simp [Task.share] at hle
  obtain ⟨hi, hopens, hinner⟩ := h.calling hle
  have hcallbacks := (h.fair parent).callbacks
  refine h.workSame ht [] hi (.of_all (by simp)) rfl rfl (fun j k hj => ?_)
    ⟨?_, ?_, ?_, ?_, ?_, fun _ => hopens, fun h0 => absurd h0 hinner⟩
  · cases k <;> simp [Task.share, Ne.symm hj]
  all_goals simp [Task.share, Instance.guards, Instance.opens] <;> omega

/-- An owner is dropped: the last one drops the fields. -/
theorem Inv.dropped (h : s.Inv) {owner : Owner}
    (ht : s.threads[t]? = some (.drop owner :: rest)) :
    ((s.set owner.target { s.inst owner.target with
      strong := (s.inst owner.target).strong - 1 }).resume t
      (if (s.inst owner.target).strong = 1 then fields owner.target ++ rest else rest)).Inv := by
  have hle := share_le ht owner.target .owner
  simp [Task.share] at hle
  have hi := h.lt_of_shares hle
  have hf := h.fair owner.target
  have hstrong := hf.strong
  have hinner := hf.inner
  by_cases h1 : (s.inst owner.target).strong = 1
  · rw [if_pos h1]
    refine h.workSame ht _ hi (StackOk.fields _) rfl rfl (fun j k hj => ?_)
      ⟨?_, ?_, ?_, ?_, ?_, hf.running, hf.queued⟩
    · cases k <;> simp [fields, Task.share, Ne.symm hj]
    all_goals simp [fields, Task.share, Instance.guards, Instance.opens, h1] <;> omega
  · rw [if_neg h1]
    refine h.workSame ht [] hi (.of_all (by simp)) rfl rfl (fun j k hj => ?_)
      ⟨?_, ?_, ?_, ?_, ?_, hf.running, hf.queued⟩
    · cases k <;> simp [Task.share, Ne.symm hj]
    all_goals simp [Task.share, Instance.guards, Instance.opens] <;> omega

/-- An `Arc` of an inner is dropped: the last one drops what is queued. -/
theorem Inv.droppedInner (h : s.Inv) (ht : s.threads[t]? = some (.dropInner i :: rest)) (ok : Bool) :
    (s.perform t rest ok (.dropInner i)).Inv := by
  have hle := share_le ht i .inner
  simp [Task.share] at hle
  have hi := h.lt_of_shares hle
  have hf := h.fair i
  have hinner := hf.inner
  simp only [perform]
  split
  next h1 =>
    have howners (j : Nat) (k : Share) :
        weight (Task.share j k) ((s.inst i).queued.map .drop) = queueShare (s.inst i) j k := by
      rw [weight_map_drop]
      cases k <;> rfl
    refine h.work ht _ s.active hi (.of_all fun task htask => ?_) rfl ?_ (fun j k hj => ?_)
      ⟨?_, ?_, ?_, ?_, ?_, hf.running, fun _ => rfl⟩
    · obtain ⟨owner, -, rfl⟩ := List.mem_map.mp htask
      simp [Task.ParentFirst, Task.claim, Task.share]
    · simp [Instance.queued]
    · rw [howners]
      cases k <;> simp [Task.share, Ne.symm hj, queueShare, ownersOf, Instance.queued]
    all_goals
      simp only [howners]
      simp [Task.share, queueShare, ownersOf, Instance.queued, Instance.guards, Instance.opens]
      try omega
  next h1 =>
    refine h.workSame ht [] hi (.of_all (by simp)) rfl rfl (fun j k hj => ?_)
      ⟨?_, ?_, ?_, ?_, ?_, hf.running, fun h0 => ?_⟩
    · cases k <;> simp [Task.share, Ne.symm hj]
    case refine_7 =>
      replace h0 : (s.inst i).innerStrong - 1 = 0 := h0
      omega
    all_goals simp [Task.share, Instance.guards, Instance.opens] <;> omega

theorem Inv.closed (h : s.Inv) (ht : s.threads[t]? = some (.close i :: rest))
    (hc : (s.inst i).callbacks = 0) :
    ((s.set i { s.inst i with native := .closed }).resume t (.dropInner i :: rest)).Inv := by
  have hle := share_le ht i .native
  simp [Task.share] at hle
  have hf := h.fair i
  have hopens : (s.inst i).opens = 1 := by
    have := hf.opens
    have := (s.inst i).opens_le
    omega
  refine h.workSame ht [.dropInner i] (h.lt_of_shares hle) (.one trivial fun j => ?_) rfl rfl
    (fun j k hj => ?_) ⟨?_, ?_, ?_, ?_, ?_, fun h0 => absurd hc h0, hf.queued⟩
  · simp [Task.claim, Task.share]
  · cases k <;> simp [Task.share, Ne.symm hj]
  all_goals simp [Task.share, hopens, Instance.guards] <;> omega

theorem Inv.droppedGuard (h : s.Inv) (ht : s.threads[t]? = some (.dropGuard i :: rest)) :
    ({ s.set i { s.inst i with guard := false } with active := s.active - 1 }.resume t rest).Inv := by
  have hle := share_le ht i .guard
  simp [Task.share] at hle
  have hi := h.lt_of_shares hle
  have hf := h.fair i
  have hguards : (s.inst i).guards = 1 := by
    have := hf.guards
    have := (s.inst i).guards_le
    omega
  have hactive : 1 ≤ s.active := by
    rw [h.active, ← hguards]
    exact le_weight (List.mem_of_getElem? (inst_eq hi))
  refine h.work ht [] _ hi (.of_all (by simp)) ?_ (h.parents i) (fun j k hj => ?_)
    ⟨?_, ?_, ?_, ?_, ?_, hf.running, hf.queued⟩
  · simp [hguards]
    omega
  · cases k <;> simp [Task.share, Ne.symm hj, queueShare, Instance.queued]
  all_goals
    simp [Task.share, hguards, queueShare, Instance.queued, Instance.opens]
    try omega

theorem Inv.perform (h : s.Inv) (ht : s.threads[t]? = some (task :: rest)) (ok : Bool) :
    (s.perform t rest ok task).Inv := by
  cases task with
  | openHandle i =>
    simp only [HandleSys.perform]
    split
    · exact h.opened ht (.inl ⟨rfl, rfl⟩)
    · exact h.openFailed ht
  | wrap parent i =>
    cases parent with
    | none => exact h.returned ht
    | some parent => exact h.wrapped ht
  | configure parent owned =>
    simp only [HandleSys.perform]
    split
    · exact h.configured _ ht
    · split
      · refine h.called ht [.closeArgument parent] (.one trivial fun j => ?_) fun j k => ?_
        · simp [Task.claim, Task.share]
        · cases k <;> simp [Task.share]
      · refine h.called ht [.endCallback parent] (.one trivial fun j => ?_) fun j k => ?_
        · simp [Task.claim, Task.share]
        · cases k <;> simp [Task.share]
  | closeArgument parent =>
    refine h.called ht [.endCallback parent] (.one trivial fun j => ?_) fun j k => ?_
    · simp [Task.claim, Task.share]
    · cases k <;> simp [Task.share]
  | fromRaw parent i owned => exact h.opened ht (.inr ⟨parent, owned, rfl, rfl⟩)
  | enqueue parent created =>
    simp only [HandleSys.perform]
    split
    · next localOpen _ =>
      cases localOpen with
      | false => exact h.pushed ht rfl
      | true =>
        refine h.called ht [.drop { created with wrapper := .writeStream },
          .endCallback parent] (.of_all fun task htask => ?_) fun j k => ?_
        · simp only [List.mem_cons, List.not_mem_nil, or_false] at htask
          rcases htask with rfl | rfl <;> simp [Task.ParentFirst, Task.claim, Task.share]
        · cases k <;> simp [Task.share]
    · exact h.pushed ht rfl
    · exact h.pushed ht rfl
  | endCallback parent => exact h.endCallback ht
  | drop owner => exact h.dropped ht
  | dropInner i => exact h.droppedInner ht ok
  | close i =>
    simp only [HandleSys.perform]
    split
    · next hc => exact h.closed ht hc
    · exact h
  | dropGuard i => exact h.droppedGuard ht

theorem Inv.stacks_spawn (h : s.Inv) (hn : StackOk st) :
    ∀ st' ∈ s.threads ++ [st], StackOk st' := by
  intro st' hst
  rcases List.mem_append.mp hst with hst | hst
  · exact h.threads st' hst
  · exact List.mem_singleton.mp hst ▸ hn

theorem Inv.constructs (h : s.Inv) (kind : HandleKind) :
    ((s.reserve kind).spawn [.openHandle s.instances.length]).Inv := by
  refine h.reserve kind rfl rfl (h.stacks_spawn (.one trivial fun j => ?_))
    fun j k => ?_
  · simp only [Task.claim, Task.share]
    omega
  · rw [shares_spawn, shares_reserve]
    cases k <;> simp [Task.share, eq_comm (a := j)]

theorem Inv.event (h : s.Inv) (task : Task) (ho : (s.inst i).native = .opened) (hp : task.ParentFirst)
    (hs : ∀ j k, task.share j k = (Task.endCallback i).share j k) :
    ((s.set i { s.inst i with callbacks := (s.inst i).callbacks + 1 }).spawn [task]).Inv := by
  have hi : i < s.instances.length := by
    by_contra hi
    rw [inst_of_le (Nat.le_of_not_lt hi)] at ho
    cases ho
  have hf := h.fair i
  have hopens : (s.inst i).opens = 1 := if_pos ho
  let y : Instance := { s.inst i with callbacks := (s.inst i).callbacks + 1 }
  have hqueue (j : Nat) (k : Share) : queueShare y j k = queueShare (s.inst i) j k := by
    cases k <;> rfl
  have hshares (j : Nat) (k : Share) : ((s.set i y).spawn [task]).shares j k =
      s.shares j k + (Task.endCallback i).share j k := by
    have h₁ := shares_set hi y j k
    have h₂ := hqueue j k
    rw [shares_spawn, weight_cons, weight_nil, hs]
    omega
  refine h.change hi y rfl rfl (h.stacks_spawn (.one hp fun j => ?_))
    (h.parents i) (fun j k hj => ?_) (hf.becomes (a := fun _ => 0)
      ⟨?_, ?_, ?_, ?_, ?_, fun _ => hopens, hf.queued⟩ (hshares i))
  · rw [Task.claim, hs, hs, hs]
    simp [Task.share]
  · rw [hshares]
    cases k <;> simp [Task.share, Ne.symm hj]
  all_goals simp [y, Task.share, Instance.guards, Instance.opens]

theorem Inv.holds (h : s.Inv) (hi : i < s.instances.length) {y : Instance} {l : List Owner}
    (hg : y.guards = (s.inst i).guards) (hq : ∀ owner ∈ y.queued, i < owner.target)
    (hother : ∀ j k, j ≠ i → heldShare s.held j k + queueShare (s.inst i) j k =
      heldShare l j k + queueShare y j k)
    (hb : Becomes (s.inst i) y (fun k => heldShare s.held i k + queueShare (s.inst i) i k)
      (fun k => heldShare l i k + queueShare y i k)) :
    ({ s.set i y with held := l } : HandleSys).Inv := by
  have hs (j : Nat) (k : Share) : ({ s.set i y with held := l } : HandleSys).shares j k +
      (heldShare s.held j k + queueShare (s.inst i) j k) =
      s.shares j k + (heldShare l j k + queueShare y j k) := by
    have h₁ : ({ s.set i y with held := l } : HandleSys).shares j k + heldShare s.held j k =
        (s.set i y).shares j k + heldShare l j k := shares_held (s := s.set i y) l j k
    have h₂ := shares_set hi y j k
    omega
  refine h.change hi y rfl (by rw [hg]; rfl) h.threads hq (fun j k hj => ?_)
    ((h.fair i).becomes hb (hs i))
  have := hs j k
  have := hother j k hj
  omega

theorem Inv.lt_of_held (h : s.Inv) {owner : Owner} (hm : owner ∈ s.held) :
    owner.target < s.instances.length := by
  refine h.lt_of_shares (k := .owner) ?_
  have := ownersOf_erase hm owner.target
  rw [if_pos rfl] at this
  simp only [shares]
  omega

theorem Inv.strong_of_held (h : s.Inv) {owner : Owner} (hm : owner ∈ s.held) :
    (s.inst owner.target).strong ≠ 0 := by
  have := ownersOf_erase hm owner.target
  rw [if_pos rfl] at this
  rw [(h.fair _).strong]
  simp only [shares]
  omega

theorem Inv.cloned (h : s.Inv) {owner new : Owner} (hm : owner ∈ s.held)
    (hn : new.target = owner.target) :
    ({ s.set owner.target { s.inst owner.target with
        strong := (s.inst owner.target).strong + 1 } with
      held := new :: s.held } : HandleSys).Inv := by
  have hf := h.fair owner.target
  have hstrong := h.strong_of_held hm
  have hqueue (j : Nat) (k : Share) : queueShare { s.inst owner.target with
      strong := (s.inst owner.target).strong + 1 } j k = queueShare (s.inst owner.target) j k := by
    cases k <;> rfl
  refine h.holds (h.lt_of_held hm) rfl (h.parents _) (fun j k hj => ?_)
    ⟨?_, ?_, ?_, ?_, ?_, hf.running, hf.queued⟩
  · rw [hqueue]
    cases k <;> simp [heldShare, hn, Ne.symm hj]
  all_goals
    simp only [hqueue]
    simp [heldShare, hn, Instance.guards, Instance.opens]
    try omega

theorem splitStream_halves (streamType : StreamType) (localOpen : Bool) (owner : Owner) :
    (splitStream streamType localOpen owner).1.toList ++
      (splitStream streamType localOpen owner).2.toList ≠ [] ∧
    ∀ j, ownersOf j ((splitStream streamType localOpen owner).1.toList ++
      (splitStream streamType localOpen owner).2.toList) = if owner.target = j then
        ((splitStream streamType localOpen owner).1.toList ++
          (splitStream streamType localOpen owner).2.toList).length else 0 := by
  cases streamType <;> cases localOpen <;>
    refine ⟨by simp [splitStream], fun j => ?_⟩ <;> simp [splitStream] <;> split <;> rfl

theorem Inv.splits (h : s.Inv) {owner : Owner} (hm : owner ∈ s.held) {halves : List Owner}
    (hne : halves ≠ [])
    (hh : ∀ j, ownersOf j halves = if owner.target = j then halves.length else 0) :
    ({ s.set owner.target { s.inst owner.target with
        strong := (s.inst owner.target).strong - 1 + halves.length } with
      held := halves ++ s.held.erase owner } : HandleSys).Inv := by
  have hf := h.fair owner.target
  have hstrong := h.strong_of_held hm
  have hlength : 0 < halves.length := List.length_pos_of_ne_nil hne
  have hqueue (j : Nat) (k : Share) : queueShare { s.inst owner.target with
      strong := (s.inst owner.target).strong - 1 + halves.length } j k =
        queueShare (s.inst owner.target) j k := by
    cases k <;> rfl
  have herase := ownersOf_erase hm
  refine h.holds (h.lt_of_held hm) rfl (h.parents _) (fun j k hj => ?_)
    ⟨?_, ?_, ?_, ?_, ?_, hf.running, hf.queued⟩
  · rw [hqueue]
    have := herase j
    cases k <;> simp [heldShare, ownersOf_append, hh, Ne.symm hj] at this ⊢
    omega
  all_goals
    have := herase owner.target
    simp only [hqueue]
    simp [heldShare, ownersOf_append, hh, Instance.guards, Instance.opens] at this ⊢
    try omega

theorem Inv.accepts (h : s.Inv) {owner accepted : Owner} {q : QueueName} {l : List Owner}
    (hm : owner ∈ s.held) (hq : (s.inst owner.target).queues q = accepted :: l) :
    ({ s.set owner.target ((s.inst owner.target).setQueue q l) with
      held := accepted :: s.held } : HandleSys).Inv := by
  have hf := h.fair owner.target
  have hqueue (j : Nat) (k : Share) :
      queueShare ((s.inst owner.target).setQueue q l) j k + (Task.drop accepted).share j k =
        queueShare (s.inst owner.target) j k := by
    cases k with
    | owner =>
      have := (s.inst owner.target).ownersOf_setQueue q l j
      rw [hq, ownersOf_cons] at this
      simp only [queueShare, Task.share]
      omega
    | _ => rfl
  have hmem {x : Owner} (hx : x ∈ ((s.inst owner.target).setQueue q l).queued) :
      x ∈ (s.inst owner.target).queued := by
    obtain ⟨q', hq'⟩ := Instance.mem_queued.mp hx
    refine Instance.mem_queued.mpr ⟨q', ?_⟩
    by_cases hqq : q' = q
    · subst hqq
      simp only [Instance.setQueue, if_pos] at hq'
      rw [hq]
      exact List.mem_cons_of_mem _ hq'
    · simpa only [Instance.setQueue, if_neg hqq] using hq'
  refine h.holds (h.lt_of_held hm) rfl (fun x hx => h.parents _ x (hmem hx)) (fun j k hj => ?_)
    ⟨?_, ?_, ?_, ?_, ?_, hf.running, fun h0 => ?_⟩
  · have := hqueue j k
    cases k <;> simp [heldShare, Task.share, queueShare] at this ⊢
    omega
  case refine_7 =>
    have hnil := hf.queued h0
    refine List.eq_nil_iff_forall_not_mem.mpr fun x hx => ?_
    have := hmem hx
    rw [hnil] at this
    cases this
  all_goals
    have := hqueue owner.target .owner
    simp [heldShare, Task.share, queueShare] at this ⊢
    try omega

theorem Inv.drops (h : s.Inv) {owner : Owner} (hm : owner ∈ s.held) :
    ({ s with held := s.held.erase owner }.spawn [.drop owner]).Inv := by
  refine h.same rfl rfl (h.stacks_spawn (.one trivial fun j => ?_)) fun j k => ?_
  · simp [Task.claim, Task.share]
  · have h₁ := shares_held (s := s) (s.held.erase owner) j k
    have h₂ := ownersOf_erase hm j
    rw [shares_spawn, weight_cons, weight_nil]
    cases k <;> simp [heldShare, Task.share] at h₁ ⊢ <;> omega

theorem Inv.step (h : s.Inv) (l : HandleLabel) : (s.next l).Inv := by
  cases l with
  | newListener => exact h.constructs .listener
  | newConnection => exact h.constructs .connection
  | openStream conn streamType =>
    simp only [next]
    split
    · exact h.constructs _
    · exact h
  | connectionEvent listener owned =>
    simp only [next]
    split
    · next hx =>
      refine h.event (.configure listener owned) hx.2 trivial fun j k => ?_
      cases k <;> rfl
    · exact h
  | streamEvent conn streamType =>
    simp only [next]
    split
    · next hx =>
      have he := h.event (.configure conn false) hx.2 trivial fun j k => by cases k <;> rfl
      have hthreads : (s.threads ++ [[.configure conn false]])[s.threads.length]? =
          some [.configure conn false] := List.getElem?_concat_length
      have hc := he.configured (.stream streamType false) hthreads
      simpa [spawn, HandleSys.reserve, resume, set] using hc
    · exact h
  | otherEvent i =>
    simp only [next]
    split
    · next hx => exact h.event _ hx trivial fun _ _ => rfl
    · exact h
  | advance t ok =>
    simp only [next]
    split
    · next ht => exact h.perform ht ok
    · exact h
  | clone owner =>
    simp only [next]
    split
    · next hx => exact h.cloned hx.1 rfl
    · exact h
  | split owner =>
    simp only [next]
    split
    · next streamType localOpen _ =>
      split
      · next hx =>
        obtain ⟨hne, hh⟩ := splitStream_halves streamType localOpen owner
        exact h.splits hx.1 hne hh
      · exact h
    · exact h
  | readChunk owner =>
    simp only [next]
    split
    · next hx => exact h.cloned hx.1 rfl
    · exact h
  | accept owner q =>
    simp only [next]
    split
    · next hq =>
      split
      · next hm => exact h.accepts hm hq
      · exact h
    · exact h
  | drop owner =>
    simp only [next]
    split
    · next hm => exact h.drops hm
    · exact h

theorem inv_init : ({} : HandleSys).Inv where
  active := rfl
  fair i := by
    constructor <;> simp [inst, shares, total, Instance.guards, Instance.opens, Instance.queued]
  threads st hst := by cases hst
  parents i owner h := by simp [inst, Instance.queued] at h

theorem inv_run {tr : List HandleStep} (h : handleSystem.Run tr s) : s.Inv :=
  h.invariant_state (fun _ hs => hs ▸ inv_init) fun _ _ l _ _ hi => hi.step l

theorem active_eq_liveGuards (h : s.Inv) : s.active = s.liveGuards := by
  rw [h.active]
  exact weight_eq_countP _

/-- Without a guard an instance has no open handle, and nobody is about to open it. -/
theorem Inv.closed_of_guard (h : s.Inv) (hg : (s.inst i).guard = false) :
    (s.inst i).native ≠ .opened := by
  intro ho
  have hopens : (s.inst i).opens = 1 := if_pos ho
  have hguards : (s.inst i).guards = 0 := by simp [Instance.guards, hg]
  have := (h.fair i).guards
  have := (h.fair i).opens
  have := h.claims i
  omega

theorem Inv.guard_of_active (h : s.Inv) (h0 : s.active = 0) (i : Nat) :
    (s.inst i).guard = false := by
  by_cases hi : i < s.instances.length
  · have hle := le_weight (w := Instance.guards) (List.mem_of_getElem? (inst_eq hi))
    rw [← h.active, h0] at hle
    by_contra hg
    simp [Instance.guards, hg] at hle
  · rw [inst_of_le (Nat.le_of_not_lt hi)]

/-- **Nothing is leaked**: once the application holds nothing and every thread is done, each
instance has been given up. By induction on the instances, the oldest first: whose inner might
own one is older. -/
theorem Inv.gone (h : s.Inv) (hh : s.held = []) (ht : ∀ st ∈ s.threads, st = []) (i : Nat) :
    (s.inst i).strong = 0 ∧ (s.inst i).guard = false ∧ (s.inst i).innerStrong = 0 := by
  have htotal (w : Task → Nat) : total w s.threads = 0 := by
    by_contra hpos
    obtain ⟨st, hst, a, ha, -⟩ := total_pos_iff.mp (Nat.pos_of_ne_zero hpos)
    rw [ht st hst] at ha
    cases ha
  induction i using Nat.strongRecOn with
  | _ i ih =>
    obtain ⟨h₁, h₂, h₃, h₄, -, -, -⟩ := h.fair i
    have hqueued : weight (fun x => ownersOf i x.queued) s.instances = 0 := by
      by_contra hpos
      obtain ⟨x, hx, hown⟩ := weight_pos_iff.mp (Nat.pos_of_ne_zero hpos)
      obtain ⟨p, hp⟩ := List.mem_iff_getElem?.mp hx
      have hinst : s.inst p = x := by simp only [inst, hp, Option.getD_some]
      obtain ⟨owner, hmem, htarget⟩ := List.countP_pos_iff.mp hown
      simp only [decide_eq_true_eq] at htarget
      have hlt := h.parents p owner (hinst ▸ hmem)
      have hnil := (h.fair p).queued (ih p (by omega)).2.2
      rw [hinst] at hnil
      rw [hnil] at hmem
      cases hmem
    simp only [shares, htotal, hh, hqueued, ownersOf_nil] at h₁ h₂ h₃ h₄
    refine ⟨h₁, ?_, by omega⟩
    by_contra hg
    have : (s.inst i).guards = 1 := by simp [Instance.guards, hg]
    omega

end HandleSys

/-- **`wait_idle` is sound.** In every run the count is the number of guards; while it is 0 no
wrapper has an open handle, nor has a callback one as an owned argument; and once the
application holds nothing and every thread is done it is 0. -/
theorem wait_idle_sound {tr : List HandleStep} {s : HandleSys} (h : handleSystem.Run tr s) :
    s.active = s.liveGuards ∧
    (s.active = 0 → (∀ x ∈ s.instances, x.native ≠ .opened) ∧
      ∀ st ∈ s.threads, ∀ task ∈ st, ¬ task.OwnsArgument) ∧
    (s.held = [] → (∀ st ∈ s.threads, st = []) → s.active = 0) := by
  have hinv := HandleSys.inv_run h
  refine ⟨HandleSys.active_eq_liveGuards hinv, fun h0 => ⟨fun x hx => ?_, ?_⟩, fun hh ht => ?_⟩
  · obtain ⟨i, hi⟩ := List.mem_iff_getElem?.mp hx
    have hinst : s.inst i = x := by simp only [HandleSys.inst, hi, Option.getD_some]
    exact hinst ▸ hinv.closed_of_guard (hinv.guard_of_active h0 i)
  · -- an owned argument is that of a callback, whose handle is open
    intro st hst task htask hown
    have hle (p : Nat) : task.share p .callback ≤ s.shares p .callback := by
      have := le_total (w := Task.share p .callback) hst htask
      simp only [HandleSys.shares]
      omega
    have hcall : ∃ p, 0 < s.shares p .callback := by
      cases task with
      | configure p _ | closeArgument p | fromRaw p _ _ =>
        refine ⟨p, lt_of_lt_of_le ?_ (hle p)⟩
        simp [Task.share]
      | _ => cases hown
    obtain ⟨p, hp⟩ := hcall
    refine hinv.closed_of_guard (hinv.guard_of_active h0 p) ?_
    have hopens := (hinv.calling hp).2.1
    by_contra hne
    simp [Instance.opens, hne] at hopens
  · rw [hinv.active]
    by_contra hpos
    obtain ⟨x, hx, hg⟩ := weight_pos_iff.mp (Nat.pos_of_ne_zero hpos)
    obtain ⟨i, hi⟩ := List.mem_iff_getElem?.mp hx
    have hinst : s.inst i = x := by simp only [HandleSys.inst, hi, Option.getD_some]
    have := (hinv.gone hh ht i).2.1
    rw [hinst] at this
    simp [Instance.guards, this] at hg

/-- A listener is opened, a connection is queued in it, and it is dropped. -/
def queuedAndDropped : List HandleLabel :=
  .newListener :: (List.replicate 2 (.advance 0 true) ++
    .connectionEvent 0 true :: (List.replicate 5 (.advance 1 true) ++
      .drop ⟨.listener, 0⟩ :: List.replicate 10 (.advance 2 true)))

/-- Both handles are closed when all is done. -/
theorem wait_idle_sound_unaccepted :
    ∃ (tr : List HandleStep) (s : HandleSys), handleSystem.Run tr s ∧
      tr.map Step.label = queuedAndDropped.reverse ∧ s.instances.length = 2 ∧ s.active = 0 ∧
      ∀ x ∈ s.instances, x.native ≠ .opened := by
  obtain ⟨s, hs⟩ : ∃ s, queuedAndDropped.foldl (fun s l => (handleSystem.next s l).1) {} = s :=
    ⟨_, rfl⟩
  have hend : s.held = [] ∧ s.threads = [[], [], []] ∧ s.instances.length = 2 := by
    rw [← hs]
    decide +kernel
  obtain ⟨tr, hr, hl⟩ := (System.Run.start (S := handleSystem) (s := {}) rfl).extend
    (fun _ _ _ => trivial) queuedAndDropped
  rw [hs] at hr
  have hsound := wait_idle_sound hr
  have h0 := hsound.2.2 hend.1 (by simp [hend.2.1])
  exact ⟨tr, s, hr, by simpa using hl, hend.2.2, h0, (hsound.2.1 h0).1⟩

end MsquicAsync
