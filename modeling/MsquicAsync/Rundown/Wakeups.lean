import MsquicAsync.Rundown.WaitIdle

/-!
# No wakeup is lost

A pending `WaitIdle` has its waker in the map until a guard's drop drains it, and
such a drop wakes what it has drained. As the second load of a poll comes after
its waker is in the map, the count is 0 beside a waker in the map only while some
drop is about to drain it. The keys of the live futures are distinct, so nobody
removes another's waker.
-/

namespace MsquicAsync

open Runs

variable {ω : Type}

namespace Waiters

theorem mem_insert {x : Waiters ω} {key : Nat} {waker : ω} {e : Nat × ω} :
    e ∈ (x.insert key waker).map ↔ e = (key, waker) ∨ (e ∈ x.map ∧ e.1 ≠ key) := by
  simp [insert]

theorem mem_remove {x : Waiters ω} {key : Nat} {e : Nat × ω} :
    e ∈ (x.remove key).map ↔ e ∈ x.map ∧ e.1 ≠ key := by
  simp [remove]

end Waiters

/-! ## Keys -/

namespace RundownSys

variable {s : RundownSys ω} {i j : Nat} {x y : WaitIdle ω}

@[simp] theorem set_rundown (x : Option (WaitIdle ω)) : (s.set i x).rundown = s.rundown := rfl
@[simp] theorem set_guards (x : Option (WaitIdle ω)) : (s.set i x).guards = s.guards := rfl
@[simp] theorem set_drops (x : Option (WaitIdle ω)) : (s.set i x).drops = s.drops := rfl
@[simp] theorem set_same (x : Option (WaitIdle ω)) : (s.set i x).futures i = x := if_pos rfl

theorem set_other (h : j ≠ i) (x : Option (WaitIdle ω)) :
    (s.set i x).futures j = s.futures j := if_neg h

/-- **What a step can do**: nothing, or what its label says, if the step applies. -/
inductive Effect [DecidableEq ω] (s : RundownSys ω) : RundownLabel ω → RundownSys ω → Prop where
  | nothing (l : RundownLabel ω) : Effect s l s
  | newGuard : Effect s .newGuard
      { s with
        rundown := { s.rundown with active := s.rundown.active + 1 }
        guards := s.guards + 1 }
  | dropGuard (hg : s.guards ≠ 0) : Effect s .dropGuard
      { s with
        rundown := { s.rundown with active := s.rundown.active - 1 }
        guards := s.guards - 1
        drops := if s.rundown.active = 1 then s.drops ++ [.draining] else s.drops }
  | drain {d : Nat} (hd : s.drops[d]? = some .draining) : Effect s (.drain d)
      { s with
        rundown := { s.rundown with waiters := { s.rundown.waiters with map := [] } }
        drops := s.drops.set d (.waking (s.rundown.waiters.map.map Prod.snd)) }
  | wake {d n : Nat} {wakers : List ω} {cx : ω} (hd : s.drops[d]? = some (.waking wakers))
      (hn : wakers[n]? = some cx) : Effect s (.wake d n)
      { s with
        drops := s.drops.set d (.waking (wakers.eraseIdx n))
        futures := fun j => (s.futures j).map fun x => x.noteWake cx }
  | waitIdle {i : Nat} (hi : s.futures i = none) : Effect s (.waitIdle i) (s.set i (some {}))
  | load {i : Nat} {x : WaitIdle ω} {cx : ω} (hx : s.futures i = some x) (hp : x.phase = .idle) :
      Effect s (.load i cx) (s.set i (x.load s.rundown cx))
  | register {i : Nat} {x : WaitIdle ω} {cx : ω} (hx : s.futures i = some x)
      (hp : x.phase = .registering cx) : Effect s (.register i)
      ({ s with rundown := (x.register s.rundown cx).2 }.set i (x.register s.rundown cx).1)
  | recheck {i : Nat} {x : WaitIdle ω} {cx : ω} {woken : Bool} (hx : s.futures i = some x)
      (hp : x.phase = .rechecking cx woken) : Effect s (.recheck i)
      (s.set i (x.recheck s.rundown cx woken))
  | deregister {i : Nat} {x : WaitIdle ω} {registered : Option ω} (hx : s.futures i = some x)
      (hp : x.phase = .deregistering registered) : Effect s (.deregister i)
      ({ s with rundown := (x.deregister s.rundown).2 }.set i (x.deregister s.rundown).1.ready)
  | dropWaitIdle {i : Nat} {x : WaitIdle ω} (hx : s.futures i = some x) (hp : x.phase = .idle) :
      Effect s (.dropWaitIdle i) ({ s with rundown := (x.deregister s.rundown).2 }.set i none)

theorem next_effect [DecidableEq ω] (s : RundownSys ω) (l : RundownLabel ω) :
    Effect s l (s.next l) := by
  cases l with
  | newGuard => exact .newGuard
  | dropGuard =>
    simp only [next]
    split
    · exact .nothing _
    · next hg => exact .dropGuard hg
  | drain d =>
    simp only [next]
    split
    · next hd => exact .drain hd
    · exact .nothing _
  | wake d n =>
    simp only [next]
    split
    · next hd =>
      split
      · next hn => exact .wake hd hn
      · exact .nothing _
    · exact .nothing _
  | waitIdle i =>
    simp only [next]
    split
    · next hi => exact .waitIdle hi
    · exact .nothing _
  | load i cx =>
    simp only [next]
    split
    · next hx =>
      split
      · next hp => exact .load hx hp
      · exact .nothing _
    · exact .nothing _
  | register i =>
    simp only [next]
    split
    · next hx =>
      split
      · next hp => exact .register hx hp
      · exact .nothing _
    · exact .nothing _
  | recheck i =>
    simp only [next]
    split
    · next hx =>
      split
      · next hp => exact .recheck hx hp
      · exact .nothing _
    · exact .nothing _
  | deregister i =>
    simp only [next]
    split
    · next hx =>
      split
      · next hp => exact .deregister hx hp
      · exact .nothing _
    · exact .nothing _
  | dropWaitIdle i =>
    simp only [next]
    split
    · next hx =>
      split
      · next hp => exact .dropWaitIdle hx hp
      · exact .nothing _
    · exact .nothing _

/-- Distinct live futures have distinct keys, and every entry of the map is a live one's. -/
structure Keys (s : RundownSys ω) : Prop where
  lt : ∀ i x k, s.futures i = some x → x.key = some k → k < s.rundown.waiters.next
  distinct : ∀ i j x y k, s.futures i = some x → s.futures j = some y → x.key = some k →
    y.key = some k → i = j
  owned : ∀ e ∈ s.rundown.waiters.map, ∃ i x, s.futures i = some x ∧ x.key = some e.1

theorem Keys.keep (h : s.Keys) (hx : s.futures i = some x) (hk : y.key = x.key) :
    (s.set i (some y)).Keys := by
  have hlook {j : Nat} {z : WaitIdle ω} (hz : (s.set i (some y)).futures j = some z) :
      ∃ z', s.futures j = some z' ∧ z.key = z'.key := by
    by_cases hj : j = i
    · subst hj
      rw [set_same] at hz
      cases hz
      exact ⟨x, hx, hk⟩
    · rw [set_other hj] at hz
      exact ⟨z, hz, rfl⟩
  refine ⟨fun j z k hz hzk => ?_, fun j j' z z' k hz hz' hzk hzk' => ?_, fun e he => ?_⟩
  · obtain ⟨u, hu, huk⟩ := hlook hz
    exact h.lt j u k hu (huk ▸ hzk)
  · obtain ⟨u, hu, huk⟩ := hlook hz
    obtain ⟨u', hu', huk'⟩ := hlook hz'
    exact h.distinct j j' u u' k hu hu' (huk ▸ hzk) (huk' ▸ hzk')
  · obtain ⟨j, z, hz, hzk⟩ := h.owned e he
    by_cases hj : j = i
    · subst hj
      cases hx.symm.trans hz
      exact ⟨j, y, set_same _, hk.trans hzk⟩
    · exact ⟨j, z, (set_other hj _).trans hz, hzk⟩

theorem Keys.giveUp (h : s.Keys) (hx : s.futures i = some x) {y : Option (WaitIdle ω)}
    (hy : ∀ z, y = some z → z.key = none) :
    ({ s with rundown := (x.deregister s.rundown).2 }.set i y).Keys := by
  have hlook {j k : Nat} {z : WaitIdle ω}
      (hz : ({ s with rundown := (x.deregister s.rundown).2 }.set i y).futures j = some z)
      (hk : z.key = some k) : s.futures j = some z ∧ j ≠ i := by
    by_cases hj : j = i
    · subst hj
      rw [set_same] at hz
      rw [hy z hz] at hk
      cases hk
    · rw [set_other hj] at hz
      exact ⟨hz, hj⟩
  have hnext : (x.deregister s.rundown).2.waiters.next = s.rundown.waiters.next := by
    unfold WaitIdle.deregister
    split <;> rfl
  refine ⟨fun j z k hz hzk => ?_, fun j j' z z' k hz hz' hzk hzk' => ?_, fun e he => ?_⟩
  · show k < (x.deregister s.rundown).2.waiters.next
    rw [hnext]
    exact h.lt j z k (hlook hz hzk).1 hzk
  · exact h.distinct j j' z z' k (hlook hz hzk).1 (hlook hz' hzk').1 hzk hzk'
  · -- the owner of an entry that is left is not the future that gives up its key
    have hleft : e ∈ s.rundown.waiters.map ∧ x.key ≠ some e.1 := by
      replace he : e ∈ (x.deregister s.rundown).2.waiters.map := he
      unfold WaitIdle.deregister at he
      split at he
      · next key hkey =>
        obtain ⟨hmem, hne⟩ := Waiters.mem_remove.mp he
        rw [hkey]
        exact ⟨hmem, fun heq => hne (Option.some.inj heq).symm⟩
      · next hkey => exact ⟨he, by simp [hkey]⟩
    obtain ⟨j, z, hz, hzk⟩ := h.owned e hleft.1
    have hj : j ≠ i := by
      rintro rfl
      cases hx.symm.trans hz
      exact hleft.2 hzk
    exact ⟨j, z, (set_other hj _).trans hz, hzk⟩

/-- A future registers, under its key or a new one. -/
theorem Keys.register (h : s.Keys) (hx : s.futures i = some x) (cx : ω)
    (hleft : x.key = none → s.rundown.waiters.next + 1 < 2 ^ 64) :
    ({ s with rundown := (x.register s.rundown cx).2 }.set i (x.register s.rundown cx).1).Keys := by
  cases hkey : x.key with
  | some key =>
    have hreg : x.register s.rundown cx = ({ x with phase := .rechecking cx false },
        { s.rundown with waiters := s.rundown.waiters.insert key cx }) := by
      simp only [WaitIdle.register, hkey]
    rw [hreg]
    have hk := h.keep hx (y := { x with phase := .rechecking cx false }) rfl
    refine ⟨hk.lt, hk.distinct, fun e he => ?_⟩
    rcases Waiters.mem_insert.mp he with rfl | ⟨hmem, -⟩
    · exact ⟨i, _, set_same _, hkey⟩
    · exact hk.owned e hmem
  | none =>
    have hn : (s.rundown.waiters.next + 1) % 2 ^ 64 = s.rundown.waiters.next + 1 :=
      Nat.mod_eq_of_lt (hleft hkey)
    have hreg : x.register s.rundown cx =
        ({ x with key := some s.rundown.waiters.next, phase := .rechecking cx false },
          { s.rundown with
            waiters := { s.rundown.waiters with next := s.rundown.waiters.next + 1 }.insert
              s.rundown.waiters.next cx }) := by
      simp only [WaitIdle.register, hkey, hn]
    rw [hreg]
    -- all keys in use are below the counter, so the new one is nobody else's
    have hnew {j k : Nat} {z : WaitIdle ω} (hj : j ≠ i) (hz : s.futures j = some z)
        (hzk : z.key = some k) : k ≠ s.rundown.waiters.next :=
      Nat.ne_of_lt (h.lt j z k hz hzk)
    refine ⟨fun j z k hz hzk => ?_, fun j j' z z' k hz hz' hzk hzk' => ?_, fun e he => ?_⟩
    · show k < s.rundown.waiters.next + 1
      by_cases hj : j = i
      · subst hj
        rw [set_same] at hz
        cases hz
        cases hzk
        exact Nat.lt_succ_self _
      · rw [set_other hj] at hz
        exact Nat.lt_succ_of_lt (h.lt j z k hz hzk)
    · by_cases hj : j = i <;> by_cases hj' : j' = i
      · rw [hj, hj']
      · subst hj
        rw [set_same] at hz
        rw [set_other hj'] at hz'
        cases hz
        cases hzk
        exact absurd rfl (hnew hj' hz' hzk')
      · subst hj'
        rw [set_same] at hz'
        rw [set_other hj] at hz
        cases hz'
        cases hzk'
        exact absurd rfl (hnew hj hz hzk)
      · rw [set_other hj] at hz
        rw [set_other hj'] at hz'
        exact h.distinct j j' z z' k hz hz' hzk hzk'
    · rcases Waiters.mem_insert.mp he with rfl | ⟨hmem, -⟩
      · exact ⟨i, _, set_same _, rfl⟩
      · obtain ⟨j, z, hz, hzk⟩ := h.owned e hmem
        have hj : j ≠ i := by
          rintro rfl
          cases hx.symm.trans hz
          rw [hkey] at hzk
          cases hzk
        exact ⟨j, z, (set_other hj _).trans hz, hzk⟩

theorem load_key (x : WaitIdle ω) (r : RundownState ω) (cx : ω) : (x.load r cx).key = x.key := by
  unfold WaitIdle.load
  split
  · split <;> rfl
  · rfl

theorem recheck_key (x : WaitIdle ω) (r : RundownState ω) (cx : ω) (woken : Bool) :
    (x.recheck r cx woken).key = x.key := by
  unfold WaitIdle.recheck
  split <;> rfl

theorem deregister_key (x : WaitIdle ω) (r : RundownState ω) : (x.deregister r).1.key = none := by
  unfold WaitIdle.deregister
  split
  · rfl
  · next h => exact h

theorem deregister_active (x : WaitIdle ω) (r : RundownState ω) :
    (x.deregister r).2.active = r.active := by
  unfold WaitIdle.deregister
  split <;> rfl

theorem register_active (x : WaitIdle ω) (r : RundownState ω) (cx : ω) :
    (x.register r cx).2.active = r.active := by
  unfold WaitIdle.register
  split <;> rfl

theorem Keys.step [DecidableEq ω] {l : RundownLabel ω} {s' : RundownSys ω} (h : s.Keys)
    (he : Effect s l s') (hok : KeysLeft [] s l) : s'.Keys := by
  cases he with
  | nothing => exact h
  | newGuard | dropGuard => exact ⟨h.lt, h.distinct, h.owned⟩
  | drain => exact ⟨h.lt, h.distinct, fun e he => by cases he⟩
  | @wake d n wakers cx =>
    refine ⟨fun i x k hx hk => ?_, fun i j x y k hx hy hk hk' => ?_, fun e he => ?_⟩
    · obtain ⟨z, hz, rfl⟩ := Option.map_eq_some_iff.mp hx
      exact h.lt i z k hz hk
    · obtain ⟨z, hz, rfl⟩ := Option.map_eq_some_iff.mp hx
      obtain ⟨z', hz', rfl⟩ := Option.map_eq_some_iff.mp hy
      exact h.distinct i j z z' k hz hz' hk hk'
    · obtain ⟨i, x, hx, hk⟩ := h.owned e he
      exact ⟨i, x.noteWake cx, by simp only [hx, Option.map_some], hk⟩
  | @waitIdle i hi =>
    have hlook {j k : Nat} {z : WaitIdle ω} (hz : (s.set i (some {})).futures j = some z)
        (hk : z.key = some k) : s.futures j = some z := by
      by_cases hj : j = i
      · subst hj
        rw [set_same] at hz
        cases hz
        cases hk
      · rwa [set_other hj] at hz
    refine ⟨fun j z k hz hk => h.lt j z k (hlook hz hk) hk,
      fun j j' z z' k hz hz' hk hk' => h.distinct j j' z z' k (hlook hz hk) (hlook hz' hk') hk hk',
      fun e he => ?_⟩
    obtain ⟨j, z, hz, hk⟩ := h.owned e he
    have hj : j ≠ i := by
      rintro rfl
      rw [hi] at hz
      cases hz
    exact ⟨j, z, (set_other hj _).trans hz, hk⟩
  | load hx => exact h.keep hx (load_key _ _ _)
  | @register i x cx hx => exact h.register hx _ (hok x hx)
  | recheck hx => exact h.keep hx (recheck_key _ _ _ _)
  | @deregister i x registered hx =>
    refine h.giveUp hx fun z hz => ?_
    cases hz
    exact deregister_key x s.rundown
  | dropWaitIdle hx => exact h.giveUp hx fun z hz => by cases hz

theorem Keys.mem_deregister (h : s.Keys) (hx : s.futures i = some x) (hy : s.futures j = some y)
    (hj : j ≠ i) {k : Nat} (hk : y.key = some k) {cx : ω}
    (hcx : (k, cx) ∈ s.rundown.waiters.map) :
    (k, cx) ∈ (x.deregister s.rundown).2.waiters.map := by
  unfold WaitIdle.deregister
  split
  · next key hkey =>
    refine Waiters.mem_remove.mpr ⟨hcx, ?_⟩
    rintro rfl
    exact hj (h.distinct j i y x _ hy hx hk hkey)
  · exact hcx

/-- A future that completes or is dropped takes no other future's waker out of the map. -/
theorem Keys.others_kept [DecidableEq ω] {l : RundownLabel ω} {s' : RundownSys ω} (h : s.Keys)
    (he : Effect s l s') (hl : l = .deregister i ∨ l = .dropWaitIdle i)
    (hy : s.futures j = some y) (hj : j ≠ i) {k : Nat} (hk : y.key = some k) {cx : ω}
    (hcx : (k, cx) ∈ s.rundown.waiters.map) : (k, cx) ∈ s'.rundown.waiters.map := by
  rcases hl with rfl | rfl
  · cases he with
    | nothing => exact hcx
    | deregister hx => exact h.mem_deregister hx hy hj hk hcx
  · cases he with
    | nothing => exact hcx
    | dropWaitIdle hx => exact h.mem_deregister hx hy hj hk hcx

theorem Keys.mem_register (h : s.Keys) (hx : s.futures i = some x) (hy : s.futures j = some y)
    (hj : j ≠ i) {k : Nat} (hk : y.key = some k) {cx cx' : ω}
    (hcx : (k, cx) ∈ s.rundown.waiters.map) :
    (k, cx) ∈ (x.register s.rundown cx').2.waiters.map := by
  unfold WaitIdle.register
  split
  · next key hkey =>
    refine Waiters.mem_insert.mpr (.inr ⟨hcx, ?_⟩)
    rintro rfl
    exact hj (h.distinct j i y x _ hy hx hk hkey)
  · exact Waiters.mem_insert.mpr (.inr ⟨hcx, Nat.ne_of_lt (h.lt j y k hy hk)⟩)

end RundownSys

/-! ## Wakers -/

/-- A poll in progress has put another waker in the map than `cx`. -/
def WaitIdle.Replaced (x : WaitIdle ω) (cx : ω) : Prop :=
  match x.phase with
  | .rechecking cx' _ | .deregistering (some cx') => cx' ≠ cx
  | _ => False

namespace WaitIdle

variable [DecidableEq ω] {x : WaitIdle ω} {cx cx' : ω}

theorem noteWake_rechecking (h : (x.noteWake cx).phase = .rechecking cx' false) :
    x.phase = .rechecking cx' false ∧ cx' ≠ cx := by
  cases hp : x.phase with
  | rechecking c woken =>
    simp only [noteWake, hp, PollPhase.rechecking.injEq, Bool.or_eq_false_iff,
      decide_eq_false_iff_not] at h
    obtain ⟨rfl, rfl, hne⟩ := h
    exact ⟨rfl, hne⟩
  | _ => simp [noteWake, hp] at h

theorem noteWake_pending (h : (x.noteWake cx).pending = some (cx', false)) :
    x.pending = some (cx', false) ∧ cx' ≠ cx := by
  cases hp : x.pending with
  | none => simp [noteWake, hp] at h
  | some p =>
    simp only [noteWake, hp, Option.map_some, Option.some.injEq, Prod.mk.injEq,
      Bool.or_eq_false_iff, decide_eq_false_iff_not] at h
    obtain ⟨rfl, hw, hne⟩ := h
    exact ⟨by rw [← hw], hne⟩

theorem noteWake_replaced : (x.noteWake cx).Replaced cx' ↔ x.Replaced cx' := by
  unfold Replaced noteWake
  cases x.phase <;> rfl

end WaitIdle

namespace RundownSys

variable {s s' : RundownSys ω} {i j : Nat} {x y : WaitIdle ω}

/-- Some drop has drained `cx` and will wake it. -/
def Waking (s : RundownSys ω) (cx : ω) : Prop :=
  ∃ (d : Nat) (wakers : List ω), s.drops[d]? = some (.waking wakers) ∧ cx ∈ wakers

/-- `cx` is in the map under the future's key. -/
def Registered (s : RundownSys ω) (x : WaitIdle ω) (cx : ω) : Prop :=
  ∃ k, x.key = some k ∧ (k, cx) ∈ s.rundown.waiters.map

/-- A waker that has not been woken is about to be, or in the map; and in the map beside a
count of 0, once its poll is over, only while a drop is about to drain it. -/
structure Safe (s : RundownSys ω) (x : WaitIdle ω) : Prop where
  rechecking : ∀ cx, x.phase = .rechecking cx false → s.Waking cx ∨ s.Registered x cx
  pending : ∀ cx, x.pending = some (cx, false) → ¬ x.Replaced cx →
    s.Waking cx ∨ (s.Registered x cx ∧ (s.rundown.active = 0 → .draining ∈ s.drops))

theorem Safe.mono (h : s.Safe x) (hw : ∀ cx, s.Waking cx → s'.Waking cx)
    (hr : ∀ cx, s.Registered x cx → s'.Registered x cx)
    (ha : (s.rundown.active = 0 → .draining ∈ s.drops) → s'.rundown.active = 0 →
      .draining ∈ s'.drops) : s'.Safe x where
  rechecking cx hp := (h.rechecking cx hp).imp (hw cx) (hr cx)
  pending cx hp hn := (h.pending cx hp hn).imp (hw cx) fun hreg => ⟨hr cx hreg.1, ha hreg.2⟩

theorem Safe.same (h : s.Safe x) (hd : s'.drops = s.drops)
    (hc : s'.rundown.active = s.rundown.active)
    (hr : ∀ cx, s.Registered x cx → s'.Registered x cx) : s'.Safe x := by
  refine h.mono (fun cx hcx => ?_) hr fun ha => ?_
  · rw [Waking, hd]
    exact hcx
  · rw [hc, hd]
    exact ha

theorem safe_of_none (hp : ∀ cx, x.phase ≠ .rechecking cx false) (hn : x.pending = none) :
    s.Safe x where
  rechecking cx h := absurd h (hp cx)
  pending cx h := by
    rw [hn] at h
    cases h

/-- The map is drained: what was in it is about to be woken. -/
theorem Safe.drain {d : Nat} (h : s.Safe x) (hd : s.drops[d]? = some .draining) :
    ({ s with
      rundown := { s.rundown with waiters := { s.rundown.waiters with map := [] } }
      drops := s.drops.set d (.waking (s.rundown.waiters.map.map Prod.snd)) } :
      RundownSys ω).Safe x := by
  obtain ⟨hlt, -⟩ := List.getElem?_eq_some_iff.mp hd
  have hwaking {cx : ω} (hcx : s.Waking cx ∨ s.Registered x cx) :
      ∃ (d' : Nat) (wakers : List ω),
        (s.drops.set d (.waking (s.rundown.waiters.map.map Prod.snd)))[d']? =
          some (GuardDrop.waking wakers) ∧ cx ∈ wakers := by
    rcases hcx with ⟨d', wakers, hw, hmem⟩ | ⟨k, -, hmem⟩
    · have hne : d ≠ d' := by
        rintro rfl
        rw [hd] at hw
        cases hw
      exact ⟨d', wakers, (List.getElem?_set_ne hne).trans hw, hmem⟩
    · exact ⟨d, _, List.getElem?_set_self hlt, List.mem_map.mpr ⟨_, hmem, rfl⟩⟩
  exact ⟨fun cx hp => .inl (hwaking (h.rechecking cx hp)),
    fun cx hp hn => .inl (hwaking ((h.pending cx hp hn).imp id And.left))⟩

section

variable [DecidableEq ω]

theorem Safe.wake {d n : Nat} {wakers : List ω} {cx : ω} (h : s.Safe x)
    (hd : s.drops[d]? = some (.waking wakers)) (hn : wakers[n]? = some cx) :
    ({ s with
      drops := s.drops.set d (.waking (wakers.eraseIdx n))
      futures := fun j => (s.futures j).map fun x => x.noteWake cx } : RundownSys ω).Safe
      (x.noteWake cx) := by
  obtain ⟨hlt, -⟩ := List.getElem?_eq_some_iff.mp hd
  have hwaking {cx' : ω} (hne : cx' ≠ cx) (hcx : s.Waking cx') :
      ∃ (d' : Nat) (w : List ω),
        (s.drops.set d (.waking (wakers.eraseIdx n)))[d']? = some (GuardDrop.waking w) ∧
          cx' ∈ w := by
    obtain ⟨d', w, hw, hmem⟩ := hcx
    by_cases hdd : d = d'
    · subst hdd
      cases hd.symm.trans hw
      obtain ⟨m, hm⟩ := List.mem_iff_getElem?.mp hmem
      refine ⟨d, _, List.getElem?_set_self hlt, List.mem_eraseIdx_iff_getElem?.mpr ⟨m, ?_, hm⟩⟩
      rintro rfl
      exact hne (Option.some.inj (hm.symm.trans hn))
    · exact ⟨d', w, (List.getElem?_set_ne hdd).trans hw, hmem⟩
  have hdraining (hmem : .draining ∈ s.drops) :
      .draining ∈ s.drops.set d (.waking (wakers.eraseIdx n)) := by
    obtain ⟨d', hd'⟩ := List.mem_iff_getElem?.mp hmem
    have hne : d ≠ d' := by
      rintro rfl
      rw [hd] at hd'
      cases hd'
    exact List.mem_of_getElem? ((List.getElem?_set_ne hne).trans hd')
  refine ⟨fun cx' hp => ?_, fun cx' hp hrep => ?_⟩
  · obtain ⟨hp, hne⟩ := WaitIdle.noteWake_rechecking hp
    exact (h.rechecking cx' hp).imp (hwaking hne) id
  · obtain ⟨hp, hne⟩ := WaitIdle.noteWake_pending hp
    have hrep : ¬ x.Replaced cx' := fun hr => hrep (WaitIdle.noteWake_replaced.mpr hr)
    exact (h.pending cx' hp hrep).imp (hwaking hne) fun hr => ⟨hr.1, fun h0 => hdraining (hr.2 h0)⟩

end

theorem Safe.load (h : s.Safe x) (hp : x.phase = .idle) (cx : ω) :
    s.Safe (x.load s.rundown cx) := by
  have hrep (cx' : ω) : ¬ x.Replaced cx' := by simp [WaitIdle.Replaced, hp]
  unfold WaitIdle.load
  split
  · split
    · exact ⟨(fun _ hp => by cases hp), fun cx' hpend _ => h.pending cx' hpend (hrep cx')⟩
    · exact safe_of_none (fun _ hp => by cases hp) rfl
  · exact ⟨(fun _ hp => by cases hp), fun cx' hpend _ => h.pending cx' hpend (hrep cx')⟩

/-- The critical section of a poll: the waker is in the map from now on. -/
theorem Safe.register {cx : ω} (h : s.Safe x) (hp : x.phase = .registering cx) :
    ({ s with rundown := (x.register s.rundown cx).2 } : RundownSys ω).Safe
      (x.register s.rundown cx).1 := by
  have hphase : (x.register s.rundown cx).1.phase = .rechecking cx false := by
    unfold WaitIdle.register
    split <;> rfl
  have hpending : (x.register s.rundown cx).1.pending = x.pending := by
    unfold WaitIdle.register
    split <;> rfl
  have hreg : ∃ k, (x.register s.rundown cx).1.key = some k ∧
      (k, cx) ∈ (x.register s.rundown cx).2.waiters.map := by
    unfold WaitIdle.register
    split
    · next key hkey => exact ⟨key, hkey, Waiters.mem_insert.mpr (.inl rfl)⟩
    · exact ⟨_, rfl, Waiters.mem_insert.mpr (.inl rfl)⟩
  have hold (cx' : ω) : ¬ x.Replaced cx' := by simp [WaitIdle.Replaced, hp]
  refine ⟨fun cx' hp' => ?_, fun cx' hpend hrep => ?_⟩
  · rw [hphase] at hp'
    cases hp'
    exact .inr hreg
  · -- the waker of the last poll is the one that has just been put in the map
    have heq : cx = cx' := by
      by_contra hne
      exact hrep (by simp only [WaitIdle.Replaced, hphase]; exact hne)
    subst heq
    rw [hpending] at hpend
    refine (h.pending cx hpend (hold cx)).imp id fun hr => ⟨hreg, fun h0 => hr.2 ?_⟩
    rw [← register_active x s.rundown cx]
    exact h0

/-- The second load of a poll: the waker was in the map before it. -/
theorem Safe.recheck {cx : ω} {woken : Bool} (h : s.Safe x)
    (hp : x.phase = .rechecking cx woken) : s.Safe (x.recheck s.rundown cx woken) := by
  unfold WaitIdle.recheck
  split
  · refine ⟨(fun _ hp => by cases hp), fun cx' hpend hrep => h.pending cx' hpend fun hr => hrep ?_⟩
    simp only [WaitIdle.Replaced, hp] at hr
    exact hr
  · next h0 =>
    refine ⟨(fun _ hp => by cases hp), fun cx' hpend _ => ?_⟩
    simp only [Option.some.injEq, Prod.mk.injEq] at hpend
    obtain ⟨rfl, rfl⟩ := hpend
    exact (h.rechecking cx hp).imp id fun hr => ⟨hr, fun h0' => absurd h0' h0⟩

/-- What every step keeps. -/
structure Inv (s : RundownSys ω) : Prop where
  /-- The count is the number of guards. -/
  active : s.rundown.active = s.guards
  keys : s.Keys
  safe : ∀ i x, s.futures i = some x → s.Safe x

theorem Inv.step [DecidableEq ω] {l : RundownLabel ω} (h : s.Inv) (he : Effect s l s')
    (hok : KeysLeft [] s l) : s'.Inv := by
  have hkeys := h.keys.step he hok
  -- one future moves, and the others keep their entries
  have hmove {r : RundownState ω} {i : Nat} {x' : Option (WaitIdle ω)}
      (ha : r.active = s.rundown.active)
      (hx : ∀ z, x' = some z → ({ s with rundown := r } : RundownSys ω).Safe z)
      (hr : ∀ j y k cx, s.futures j = some y → j ≠ i → y.key = some k →
        (k, cx) ∈ s.rundown.waiters.map → (k, cx) ∈ r.waiters.map) :
      ∀ j y, ({ s with rundown := r }.set i x').futures j = some y →
        ({ s with rundown := r }.set i x').Safe y := by
    intro j y hy
    by_cases hj : j = i
    · subst hj
      rw [set_same] at hy
      exact (hx y hy).same rfl rfl fun _ => id
    · rw [set_other hj] at hy
      refine (h.safe j y hy).same rfl ha fun cx hreg => ?_
      obtain ⟨k, hk, hmem⟩ := hreg
      exact ⟨k, hk, hr j y k cx hy hj hk hmem⟩
  cases he with
  | nothing => exact h
  | newGuard =>
    refine ⟨congrArg (· + 1) h.active, hkeys, fun i x hx => (h.safe i x hx).mono (fun _ => id)
      (fun _ => id) fun _ h0 => absurd h0 (Nat.succ_ne_zero _)⟩
  | dropGuard hg =>
    refine ⟨congrArg (· - 1) h.active, hkeys, fun i x hx => ?_⟩
    refine (h.safe i x hx).mono (fun cx hcx => ?_) (fun _ => id) fun _ h0 => ?_
    · obtain ⟨d, wakers, hd, hmem⟩ := hcx
      refine ⟨d, wakers, ?_, hmem⟩
      show (if s.rundown.active = 1 then s.drops ++ [.draining] else s.drops)[d]? = _
      split
      · rw [List.getElem?_append_left (List.getElem?_eq_some_iff.mp hd).1]
        exact hd
      · exact hd
    · -- the decrement that takes the count to 0 goes on to drain the map
      have h1 : s.rundown.active = 1 := by
        have hne : s.rundown.active ≠ 0 := h.active ▸ hg
        have h0 : s.rundown.active - 1 = 0 := h0
        omega
      show GuardDrop.draining ∈ if s.rundown.active = 1 then s.drops ++ [.draining] else s.drops
      rw [if_pos h1]
      exact List.mem_append_right _ (List.mem_singleton.mpr rfl)
  | drain hd => exact ⟨h.active, hkeys, fun i x hx => (h.safe i x hx).drain hd⟩
  | wake hd hn =>
    refine ⟨h.active, hkeys, fun i x hx => ?_⟩
    obtain ⟨z, hz, rfl⟩ := Option.map_eq_some_iff.mp hx
    exact (h.safe i z hz).wake hd hn
  | waitIdle hi =>
    refine ⟨h.active, hkeys, hmove (r := s.rundown) rfl ?_ fun _ _ _ _ _ _ _ => id⟩
    intro z hz
    cases hz
    exact safe_of_none (fun _ hp => by cases hp) rfl
  | load hx hp =>
    refine ⟨h.active, hkeys, hmove (r := s.rundown) rfl ?_ fun _ _ _ _ _ _ _ => id⟩
    intro z hz
    cases hz
    exact (h.safe _ _ hx).load hp _
  | @register i x cx hx hp =>
    refine ⟨(register_active x s.rundown cx).trans h.active, hkeys,
      hmove (register_active x s.rundown cx) ?_ fun j y k cx' hy hj hk =>
        h.keys.mem_register hx hy hj hk⟩
    intro z hz
    cases hz
    exact (h.safe i x hx).register hp
  | recheck hx hp =>
    refine ⟨h.active, hkeys, hmove (r := s.rundown) rfl ?_ fun _ _ _ _ _ _ _ => id⟩
    intro z hz
    cases hz
    exact (h.safe _ _ hx).recheck hp
  | @deregister i x registered hx hp =>
    refine ⟨(deregister_active x s.rundown).trans h.active, hkeys,
      hmove (deregister_active x s.rundown) ?_ fun j y k cx hy hj hk =>
        h.keys.mem_deregister hx hy hj hk⟩
    intro z hz
    cases hz
    exact safe_of_none (fun _ hp => by cases hp) rfl
  | @dropWaitIdle i x hx hp =>
    refine ⟨(deregister_active x s.rundown).trans h.active, hkeys,
      hmove (deregister_active x s.rundown) ?_ fun j y k cx hy hj hk =>
        h.keys.mem_deregister hx hy hj hk⟩
    intro z hz
    cases hz

theorem inv_init : ({} : RundownSys ω).Inv where
  active := rfl
  keys := ⟨(fun _ _ _ h => by cases h), (fun _ _ _ _ _ h => by cases h), fun _ h => by cases h⟩
  safe _ _ h := by cases h

theorem inv_run [DecidableEq ω] {tr : List (RundownStep ω)}
    (h : (rundownSystem KeysLeft).Run tr s) : s.Inv :=
  h.invariant_state (fun _ hs => hs ▸ inv_init) fun _ s l _ hok hi => hi.step (next_effect s l) hok

/-- No drop is between its decrement and its last wake. -/
def Quiet (s : RundownSys ω) : Prop := ∀ drop ∈ s.drops, drop = .waking []

theorem Inv.no_sleeper (h : s.Inv) (h0 : s.rundown.active = 0) (hq : s.Quiet)
    (hx : s.futures i = some x) (cx : ω) (hp : x.pending = some (cx, false)) : x.Replaced cx := by
  by_contra hrep
  rcases (h.safe i x hx).pending cx hp hrep with ⟨d, wakers, hd, hmem⟩ | ⟨-, hd⟩
  · have hnil := hq _ (List.mem_of_getElem? hd)
    cases hnil
    cases hmem
  · have hnil := hq _ (hd h0)
    cases hnil

end RundownSys

/-- **No wakeup is lost** while keys are left. Beside a count of 0 and no drop under way,
the waker of every pending future has been woken, unless a poll in progress has replaced
it. Keys are distinct, every entry of the map is a live future's, and a future that
completes or is dropped leaves the entries of the others. -/
theorem no_lost_wakeup [DecidableEq ω] {tr : List (RundownStep ω)} {s : RundownSys ω}
    (h : (rundownSystem KeysLeft).Run tr s) :
    (s.rundown.active = 0 → s.Quiet → ∀ i x cx woken, s.futures i = some x →
      x.pending = some (cx, woken) → ¬ x.Replaced cx → woken = true) ∧
    (∀ i j x y k, s.futures i = some x → s.futures j = some y → x.key = some k →
      y.key = some k → i = j) ∧
    (∀ e ∈ s.rundown.waiters.map, ∃ i x, s.futures i = some x ∧ x.key = some e.1) ∧
    ∀ e ∈ tr, ∀ i j y k cx, e.label = .deregister i ∨ e.label = .dropWaitIdle i → j ≠ i →
      e.pre.futures j = some y → y.key = some k → (k, cx) ∈ e.pre.rundown.waiters.map →
      (k, cx) ∈ e.post.rundown.waiters.map := by
  have hinv := RundownSys.inv_run h
  refine ⟨fun h0 hq i x cx woken hx hp hrep => ?_, hinv.keys.distinct, hinv.keys.owned, ?_⟩
  · cases woken with
    | true => rfl
    | false => exact absurd (hinv.no_sleeper h0 hq hx cx hp) hrep
  · intro e he i j y k cx hl hj hy hk hmem
    obtain ⟨tr', hr, -, htake⟩ := h.of_mem he
    have heff := RundownSys.next_effect e.pre e.label
    rw [htake]
    exact (RundownSys.inv_run hr).keys.others_kept heff hl hy hj hk hmem

/-- A guard keeps one future asleep, is dropped, drains the map and wakes it. -/
theorem no_lost_wakeup_drop :
    ∃ (tr : List (RundownStep Nat)) (s : RundownSys Nat), (rundownSystem KeysLeft).Run tr s ∧
      tr.map Step.label = [.wake 0 0, .drain 0, .dropGuard, .recheck 0, .register 0, .load 0 7,
        .waitIdle 0, .newGuard] ∧
      s.rundown.active = 0 ∧ s.Quiet ∧
      ∃ x woken, s.futures 0 = some x ∧ x.pending = some (7, woken) ∧ woken = true := by
  have h0 := System.Run.start (S := rundownSystem (ω := Nat) KeysLeft) (s := {}) rfl
  have h3 := ((h0.step .newGuard (by exact trivial)).step (.waitIdle 0) (by exact trivial)).step
    (.load 0 7) (by exact trivial)
  have h5 := (h3.step (.register 0) (by intro x _ _; decide)).step (.recheck 0) (by exact trivial)
  have h8 := ((h5.step .dropGuard (by exact trivial)).step (.drain 0) (by exact trivial)).step
    (.wake 0 0) (by exact trivial)
  refine ⟨_, _, h8, rfl, rfl, fun drop hd => List.mem_singleton.mp hd, _, _, rfl, rfl, ?_⟩
  exact (no_lost_wakeup h8).1 rfl (fun drop hd => List.mem_singleton.mp hd) 0 _ 7 _ rfl rfl id

/-! ## Where wakeups are lost -/

namespace RundownSys

/-- One future sleeps under key 0, beside a guard; `n` keys have been given out. -/
def oneAsleep (n : Nat) : RundownSys Nat where
  rundown := { active := 1, waiters := { next := n % 2 ^ 64, map := [(0, 7)] } }
  guards := 1
  futures i := if i = 0 then some { key := some 0, pending := some (7, false) } else none

/-- The steps from the start to `oneAsleep 1`. -/
def fallAsleep : List (RundownLabel Nat) :=
  [.newGuard, .waitIdle 0, .load 0 7, .register 0, .recheck 0]

/-- Another future is polled once and dropped. -/
def cancelled : List (RundownLabel Nat) :=
  [.waitIdle 1, .load 1 8, .register 1, .recheck 1, .dropWaitIdle 1]

theorem fallAsleep_init : fallAsleep.foldl next {} = oneAsleep 1 := by
  simp [fallAsleep, oneAsleep, next, set, WaitIdle.load, WaitIdle.register, WaitIdle.recheck,
    Waiters.insert]
  funext j
  by_cases hj : j = 0 <;> simp [hj]

theorem cancelled_oneAsleep {n : Nat} (h0 : 0 < n) (hn : n < 2 ^ 64) :
    cancelled.foldl next (oneAsleep n) = oneAsleep (n + 1) := by
  simp [cancelled, oneAsleep, next, set, WaitIdle.load, WaitIdle.register, WaitIdle.recheck,
    WaitIdle.deregister, Waiters.insert, Waiters.remove]
  refine ⟨by omega, funext fun j => ?_⟩
  by_cases hj : j = 1 <;> simp [hj]

theorem run_oneAsleep (n : Nat) (hn : n < 2 ^ 64) :
    ∃ tr, (rundownSystem fun _ _ _ => True).Run tr (oneAsleep (n + 1)) := by
  induction n with
  | zero =>
    have h0 := System.Run.start (S := rundownSystem (ω := Nat) fun _ _ _ => True) (s := {}) rfl
    obtain ⟨tr, h, -⟩ := h0.extend (fun _ _ _ => trivial) fallAsleep
    rw [← fallAsleep_init]
    exact ⟨tr, h⟩
  | succ n ih =>
    obtain ⟨tr, h⟩ := ih (Nat.lt_of_succ_lt hn)
    obtain ⟨tr, h, -⟩ := h.extend (fun _ _ _ => trivial) cancelled
    rw [← cancelled_oneAsleep (Nat.succ_pos n) hn]
    exact ⟨tr, h⟩

end RundownSys

/-- A re-poll puts 8 in the place of 7 before the drain, which wakes 8 alone: the poll that
answered last is the one with 7. And when `2 ^ 64` keys have been given out, a second future
gets the key of a first one that sleeps, and when dropped it takes the first one's waker out
of the map. -/
theorem wakeups_lost :
    (∃ (tr : List (RundownStep Nat)) (s : RundownSys Nat), (rundownSystem KeysLeft).Run tr s ∧
      tr.map Step.label = [.wake 0 0, .drain 0, .dropGuard, .register 0, .load 0 8, .recheck 0,
        .register 0, .load 0 7, .waitIdle 0, .newGuard] ∧
      s.rundown.active = 0 ∧ s.Quiet ∧
      ∃ x, s.futures 0 = some x ∧ x.pending = some (7, false)) ∧
    ∃ (tr : List (RundownStep Nat)) (s : RundownSys Nat),
      (rundownSystem fun _ _ _ => True).Run tr s ∧
      (∃ x y, s.futures 0 = some x ∧ s.futures 1 = some y ∧ x.key = some 0 ∧ y.key = some 0) ∧
      s.rundown.waiters.map ≠ [] ∧ (s.next (.dropWaitIdle 1)).rundown.waiters.map = [] := by
  constructor
  · have h0 := System.Run.start (S := rundownSystem (ω := Nat) KeysLeft) (s := {}) rfl
    have h3 := ((h0.step .newGuard (by exact trivial)).step (.waitIdle 0) (by exact trivial)).step
      (.load 0 7) (by exact trivial)
    have h5 := (h3.step (.register 0) (by intro x _ _; decide)).step (.recheck 0)
      (by exact trivial)
    have h7 := (h5.step (.load 0 8) (by exact trivial)).step (.register 0)
      (by intro x _ _; decide)
    have h10 := ((h7.step .dropGuard (by exact trivial)).step (.drain 0) (by exact trivial)).step
      (.wake 0 0) (by exact trivial)
    exact ⟨_, _, h10, rfl, rfl, fun drop hd => List.mem_singleton.mp hd, _, rfl, rfl⟩
  · obtain ⟨tr, h⟩ := RundownSys.run_oneAsleep (2 ^ 64 - 1) (by decide)
    obtain ⟨tr, h, -⟩ := h.extend (fun _ _ _ => trivial)
      [.waitIdle 1, .load 1 8, .register 1, .recheck 1]
    exact ⟨tr, _, h, ⟨_, _, rfl, rfl, rfl, rfl⟩, List.cons_ne_nil _ _, rfl⟩

end MsquicAsync
