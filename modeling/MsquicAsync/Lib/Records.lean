import Mathlib.Data.List.Perm.Basic

/-!
# Records written piece by piece

Several writers append to one log, each of them the pieces of its records in
order. `Whole` says that the log is a row of whole records, then the front of at
most one: nothing is lost, and no writer is inside a record while another one
is. It is kept as long as a record is begun only where nobody is inside one
(`Whole.emit`).
-/

namespace Records

variable {α : Type*}

/-- What is left of the record that a writer is inside, and its other records. -/
structure Writer (α : Type*) where
  rest : List α := []
  records : List (List α) := []

/-- A writer appends a piece. -/
inductive Writer.Emits : Writer α → α → Writer α → Prop where
  | proceed {a : α} {rest : List α} {records : List (List α)} :
      Emits ⟨a :: rest, records⟩ a ⟨rest, records⟩
  | begin {a : α} {rest : List α} {records : List (List α)} :
      Emits ⟨[], (a :: rest) :: records⟩ a ⟨rest, records⟩

theorem Writer.Emits.begins {w w' : Writer α} {a : α} (h : w.Emits a w') (hr : w.rest = []) :
    ∃ rest records, w.records = (a :: rest) :: records := by
  cases h with
  | proceed => cases hr
  | begin => exact ⟨_, _, rfl⟩

/-- What the writers have not finished: `front` has been written of the record under way. -/
inductive Unfinished (ws : List (Writer α)) : List α → List (List α) → Prop where
  | idle (h : ∀ w ∈ ws, w.rest = []) : Unfinished ws [] (ws.flatMap Writer.records)
  | inside {i : Nat} {w : Writer α} {front : List α} (hf : front ≠ []) (hi : ws[i]? = some w)
      (hw : w.rest ≠ []) (h : ∀ j w', ws[j]? = some w' → w'.rest ≠ [] → j = i) :
      Unfinished ws front ((front ++ w.rest) :: ws.flatMap Writer.records)

theorem Unfinished.eq_nil {ws : List (Writer α)} {front : List α} {left : List (List α)}
    (h : Unfinished ws front left) (hdone : ∀ w ∈ ws, w.rest = [] ∧ w.records = []) : left = [] := by
  cases h with
  | idle => exact List.flatMap_eq_nil_iff.mpr fun w hw => (hdone w hw).2
  | inside hf hi hw => exact absurd (hdone _ (List.mem_of_getElem? hi)).1 hw

/-- The log is `written` and then a front, and the records `all` are those written and those that
are not finished. -/
def Whole (ws : List (Writer α)) (log : List α) (all : List (List α)) : Prop :=
  ∃ written front left, log = written.flatten ++ front ∧ (written ++ left).Perm all ∧
    Unfinished ws front left

variable {ws : List (Writer α)} {log : List α} {all : List (List α)} {i : Nat} {w w' : Writer α}

theorem flatMap_set_perm {β : Type*} (f : Writer α → List β) (h : ws[i]? = some w)
    (w' : Writer α) : (f w ++ (ws.set i w').flatMap f).Perm (f w' ++ ws.flatMap f) := by
  obtain ⟨hi, rfl⟩ := List.getElem?_eq_some_iff.mp h
  have hl : ws.take i ++ ws[i] :: ws.drop (i + 1) = ws := by
    rw [List.getElem_cons_drop, List.take_append_drop]
  rw [List.set_eq_take_append_cons_drop, if_pos hi]
  conv => rhs; rw [← hl]
  simp only [List.flatMap_append, List.flatMap_cons]
  refine ((List.perm_append_comm_assoc _ _ _).append_left _).trans ?_
  refine (List.perm_append_comm_assoc _ _ _).trans ?_
  exact (List.perm_append_comm_assoc _ _ _).append_left _

/-- A piece belongs to the record whose front it makes longer, and only its writer can be inside a
record after it. -/
theorem Unfinished.emit {a : α} {front : List α} {left : List (List α)}
    (h : Unfinished ws front left) (hi : ws[i]? = some w) (he : w.Emits a w')
    (hbegin : w.rest = [] → ∀ v ∈ ws, v.rest = []) :
    left.Perm ((front ++ a :: w'.rest) :: (ws.set i w').flatMap Writer.records) ∧
      ∀ j u, (ws.set i w')[j]? = some u → u.rest ≠ [] → j = i := by
  have hperm := flatMap_set_perm Writer.records hi w'
  have honly (hother : ∀ j u, ws[j]? = some u → u.rest ≠ [] → j = i) (j : Nat) (u : Writer α)
      (hj : (ws.set i w')[j]? = some u) (hu : u.rest ≠ []) : j = i := by
    by_contra hne
    rw [List.getElem?_set_ne (Ne.symm hne)] at hj
    exact hne (hother j u hj hu)
  cases he with
  | proceed =>
    cases h with
    | idle h => exact absurd (h _ (List.mem_of_getElem? hi)) (List.cons_ne_nil _ _)
    | inside hf hk hw h =>
      obtain rfl := h i _ hi (List.cons_ne_nil _ _)
      obtain rfl := Option.some.inj (hk.symm.trans hi)
      exact ⟨((List.perm_append_left_iff _).mp hperm).symm.cons _, honly h⟩
  | begin =>
    have hnone := hbegin rfl
    cases h with
    | inside hf hk hw h => exact absurd (hnone _ (List.mem_of_getElem? hk)) hw
    | idle h =>
      refine ⟨?_, honly fun j u hj hu => absurd (hnone u (List.mem_of_getElem? hj)) hu⟩
      apply List.Perm.symm
      apply (List.perm_append_left_iff _).mp
      refine List.Perm.trans ?_ hperm
      exact List.perm_middle

/-- **The rule for one piece**: where it begins a record, nobody is inside one. -/
theorem Whole.emit {a : α} (h : Whole ws log all) (hi : ws[i]? = some w) (he : w.Emits a w')
    (hbegin : w.rest = [] → ∀ v ∈ ws, v.rest = []) : Whole (ws.set i w') (log ++ [a]) all := by
  obtain ⟨written, front, left, hlog, hall, hleft⟩ := h
  obtain ⟨hperm, honly⟩ := hleft.emit hi he hbegin
  replace hall := (hperm.symm.append_left written).trans hall
  have hlen : i < ws.length := (List.getElem?_eq_some_iff.mp hi).1
  have hi' : (ws.set i w')[i]? = some w' := List.getElem?_set_self hlen
  by_cases hrest : w'.rest = []
  · -- the record is complete
    refine ⟨written ++ [front ++ [a]], [], _, ?_, ?_, .idle fun u hu => ?_⟩
    · rw [hlog, List.flatten_append, List.flatten_singleton, List.append_nil, List.append_assoc]
    · rw [hrest] at hall
      rw [List.append_assoc]
      exact hall
    · obtain ⟨j, hj⟩ := List.mem_iff_getElem?.mp hu
      by_contra hne
      obtain rfl := honly j u hj hne
      obtain rfl := Option.some.inj (hi'.symm.trans hj)
      exact hne hrest
  · refine ⟨written, front ++ [a], _, ?_, ?_, .inside ?_ hi' hrest honly⟩
    · rw [hlog, List.append_assoc]
    · rw [List.append_assoc]
      exact hall
    · exact List.append_ne_nil_of_right_ne_nil _ (List.cons_ne_nil a [])

/-- The rest of the record that the writer at `i`, if there is one, is inside. -/
def restAt (ws : List (Writer α)) (i : Nat) : List α := (ws[i]?.map Writer.rest).getD []

theorem Unfinished.more {ws' : List (Writer α)} {front : List α} {left extra : List (List α)}
    (h : Unfinished ws front left) (hrest : ∀ j, restAt ws' j = restAt ws j)
    (hrec : (ws.flatMap Writer.records ++ extra).Perm (ws'.flatMap Writer.records)) :
    ∃ left', Unfinished ws' front left' ∧ (left ++ extra).Perm left' := by
  have hback {j : Nat} {u : Writer α} (hj : ws'[j]? = some u) (hu : u.rest ≠ []) :
      ∃ v, ws[j]? = some v ∧ v.rest = u.rest := by
    have hr := hrest j
    rw [restAt, restAt, hj] at hr
    cases hv : ws[j]? with
    | none =>
      rw [hv] at hr
      exact absurd hr hu
    | some v =>
      rw [hv] at hr
      exact ⟨v, rfl, hr.symm⟩
  cases h with
  | idle h =>
    refine ⟨_, .idle fun u hu => ?_, hrec⟩
    obtain ⟨j, hj⟩ := List.mem_iff_getElem?.mp hu
    by_contra hne
    obtain ⟨v, hv, heq⟩ := hback hj hne
    exact hne (heq.symm.trans (h v (List.mem_of_getElem? hv)))
  | @inside i w _ hf hi hw h =>
    have hr := hrest i
    rw [restAt, restAt, hi] at hr
    cases hi' : ws'[i]? with
    | none =>
      rw [hi'] at hr
      exact absurd hr.symm hw
    | some w' =>
      rw [hi'] at hr
      replace hr : w'.rest = w.rest := hr
      refine ⟨(front ++ w'.rest) :: ws'.flatMap Writer.records, .inside hf hi' ?_ ?_, ?_⟩
      · rw [hr]
        exact hw
      · intro j u hj hu
        obtain ⟨v, hv, heq⟩ := hback hj hu
        exact h j v hv (by rw [heq]; exact hu)
      · rw [hr]
        exact hrec.cons _

theorem Whole.more {ws' : List (Writer α)} {extra : List (List α)} (h : Whole ws log all)
    (hrest : ∀ j, restAt ws' j = restAt ws j)
    (hrec : (ws.flatMap Writer.records ++ extra).Perm (ws'.flatMap Writer.records)) :
    Whole ws' log (all ++ extra) := by
  obtain ⟨written, front, left, hlog, hall, hleft⟩ := h
  obtain ⟨left', hleft', hperm⟩ := hleft.more hrest hrec
  refine ⟨written, front, left', hlog, ?_, hleft'⟩
  refine (hperm.symm.append_left written).trans ?_
  rw [← List.append_assoc]
  exact hall.append_right extra

theorem Whole.give (h : Whole ws log all) (hi : ws[i]? = some ⟨[], []⟩)
    (records : List (List α)) : Whole (ws.set i ⟨[], records⟩) log (all ++ records) := by
  refine h.more (fun j => ?_) ?_
  · unfold restAt
    by_cases hj : j = i
    · subst hj
      rw [List.getElem?_set_self (List.getElem?_eq_some_iff.mp hi).1, hi]
      rfl
    · rw [List.getElem?_set_ne (Ne.symm hj)]
  · refine List.perm_append_comm.trans ?_
    exact (flatMap_set_perm Writer.records hi ⟨[], records⟩).symm

theorem Whole.join (h : Whole ws log all) {new : List (Writer α)}
    (hnew : ∀ w ∈ new, w = ⟨[], []⟩) : Whole (ws ++ new) log all := by
  rw [← List.append_nil all]
  refine h.more (fun j => ?_) ?_
  · unfold restAt
    by_cases hj : j < ws.length
    · rw [List.getElem?_append_left hj]
    · have hle : ws.length ≤ j := Nat.not_lt.mp hj
      rw [List.getElem?_append_right hle, List.getElem?_eq_none hle]
      cases hw : new[j - ws.length]? with
      | none => rfl
      | some w =>
        rw [hnew w (List.mem_of_getElem? hw)]
        rfl
  · have hnil : new.flatMap Writer.records = [] := by
      apply List.flatMap_eq_nil_iff.mpr
      intro w hw
      rw [hnew w hw]
    rw [List.flatMap_append, hnil]

end Records
