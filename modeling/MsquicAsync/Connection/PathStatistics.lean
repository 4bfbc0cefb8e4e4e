import MsquicAsync.Lib.Attempts
import MsquicAsync.Connection.State

/-!
# Path statistics

`get_path_statistics` does not know how many entries MsQuic has. It offers a
vector, and a larger one if MsQuic asks for more bytes, for a bounded number of
attempts. MsQuic chooses the status and the length it reports back. The next
vector takes up the bytes that were asked for exactly if they are a whole number
of entries (`path_statistics_grow_iff`): the number of entries is rounded down.
-/

namespace MsquicAsync

open Attempts

/-- An answer to `get_param`: its status, and the length MsQuic reports back. -/
structure ParamAnswer where
  result : NativeResult
  length : UInt32

/-- The locals of the loop. -/
structure PathStatisticsLoop where
  entries : Nat
  lastStatus : Option Status

namespace PathStatisticsLoop

/-- What an attempt offers: its vector is not allocated beyond `isize::MAX` bytes, and the length
is cast to 32 bits. -/
def capacityBytes (w entrySize : Nat) (s : PathStatisticsLoop) : Option Nat :=
  if s.entries * entrySize < 2 ^ (w - 1) then some (s.entries * entrySize % 2 ^ w % 2 ^ 32)
  else none

/-- One attempt; of the vector it returns only the length is kept. -/
def attempt (w entrySize : Nat) (s : PathStatisticsLoop) (a : ParamAnswer) :
    PathStatisticsLoop ⊕ Outcome (Except ConnectionError Nat) :=
  match s.capacityBytes w entrySize with
  | none => .inr (.panicked "capacity overflow")
  | some capacityBytes =>
    match a.result with
    | .ok () => .inr (.returned (.ok (min a.length.toNat capacityBytes / entrySize)))
    | .error status =>
      if capacityBytes < a.length.toNat then
        .inl { entries := a.length.toNat / entrySize, lastStatus := some status }
      else .inr (.returned (.error (.otherError status)))

end PathStatisticsLoop

namespace Connection

/-- `INITIAL_ENTRIES`. -/
def initialEntries : Nat := 4

/-- `ATTEMPTS`. -/
def pathStatisticsAttempts : Nat := 4

def growthUnrecorded : String := "the loop only continues after recording the status it grew on"

/-- `entrySize` is the size of a `QUIC_PATH_STATISTICS`. -/
def getPathStatistics (w entrySize : Nat) (answers : Nat → ParamAnswer) :
    Outcome (Except ConnectionError Nat) :=
  match run (PathStatisticsLoop.attempt w entrySize) pathStatisticsAttempts
    { entries := initialEntries, lastStatus := none } answers with
  | .inr result => result
  | .inl s => (expect s.lastStatus growthUnrecorded).map fun status => .error (.otherError status)

/-- The attempts of `getPathStatistics`. -/
def pathAttempts (w entrySize : Nat) (answers : Nat → ParamAnswer) :
    List (PathStatisticsLoop × ParamAnswer) :=
  made (PathStatisticsLoop.attempt w entrySize) pathStatisticsAttempts
    { entries := initialEntries, lastStatus := none } answers

end Connection

/-- A failing answer asks for more bytes than were offered. -/
def ParamAnswer.Asks (a : ParamAnswer) (offered : Nat) : Prop :=
  (∃ status, a.result = .error status) ∧ offered < a.length.toNat

open Connection

/-- The vector length stays within what was allocated, the byte capacity is not cut off, the
last `expect` is not reached, and whatever is asked for is offered next. -/
structure GrowsSafely (w entrySize : Nat) (answers : Nat → ParamAnswer) : Prop where
  setLen : ∀ x ∈ pathAttempts w entrySize answers, ∀ len,
    x.1.attempt w entrySize x.2 = .inr (.returned (.ok len)) → len ≤ x.1.entries
  capacity : ∀ x ∈ pathAttempts w entrySize answers, ∀ bytes,
    x.1.capacityBytes w entrySize = some bytes → bytes = x.1.entries * entrySize
  recorded : getPathStatistics w entrySize answers ≠ .panicked growthUnrecorded
  grows : ∀ k s a bytes, (pathAttempts w entrySize answers)[k]? = some (s, a) →
    s.capacityBytes w entrySize = some bytes → a.Asks bytes → k + 1 < pathStatisticsAttempts →
    ∃ x bytes', (pathAttempts w entrySize answers)[k + 1]? = some x ∧
      x.1.capacityBytes w entrySize = some bytes' ∧ a.length.toNat ≤ bytes'

/-- The bytes offered before an answer, if every answer before it is offered what it asks for. -/
def askedBefore (entrySize : Nat) (answers : Nat → ParamAnswer) : Nat → Nat
  | 0 => initialEntries * entrySize
  | k + 1 => (answers k).length.toNat

/-- The first answers, up to this one, fail, and each asks for more than the one before it. -/
def KeepsAsking (entrySize : Nat) (answers : Nat → ParamAnswer) (k : Nat) : Prop :=
  ∀ j ≤ k, (answers j).Asks (askedBefore entrySize answers j)

/-- The first vector's bytes fit in 32 bits, and every answer that asks for more, but the last,
asks for a whole number of entries, in a vector that can be allocated. -/
def AsksWhole (w entrySize : Nat) (answers : Nat → ParamAnswer) : Prop :=
  initialEntries * entrySize < 2 ^ 32 ∧
    ∀ k, k + 1 < pathStatisticsAttempts → KeepsAsking entrySize answers k →
      entrySize ∣ (answers k).length.toNat ∧ (answers k).length.toNat < 2 ^ (w - 1)

namespace PathStatisticsLoop

variable {w entrySize bytes : Nat} {s t : PathStatisticsLoop} {a : ParamAnswer}

theorem capacityBytes_le (h : s.capacityBytes w entrySize = some bytes) :
    bytes ≤ s.entries * entrySize := by
  unfold capacityBytes at h
  split at h
  · obtain rfl := Option.some.inj h
    exact (Nat.mod_le _ _).trans (Nat.mod_le _ _)
  · cases h

theorem capacityBytes_iff (h32 : s.entries * entrySize < 2 ^ 32) :
    s.capacityBytes w entrySize = some bytes ↔
      s.entries * entrySize < 2 ^ (w - 1) ∧ bytes = s.entries * entrySize := by
  have hle : 2 ^ (w - 1) ≤ 2 ^ w := Nat.pow_le_pow_right (by omega) (by omega)
  unfold capacityBytes
  split
  · next hw =>
    rw [Nat.mod_eq_of_lt (hw.trans_le hle), Nat.mod_eq_of_lt h32, Option.some.injEq, eq_comm,
      and_iff_right hw]
  · next hw => exact iff_of_false (fun h => by cases h) fun h => hw h.1

/-- **What an attempt leaves to the next**: the entries that were asked for, rounded down, and
the status. -/
theorem attempt_inl : s.attempt w entrySize a = .inl t ↔ ∃ bytes status,
    s.capacityBytes w entrySize = some bytes ∧ a.result = .error status ∧
      bytes < a.length.toNat ∧ t = ⟨a.length.toNat / entrySize, some status⟩ := by
  unfold attempt
  cases hc : s.capacityBytes w entrySize with
  | none => simp
  | some capacity =>
    cases hr : a.result with
    | ok _ => simp
    | error status =>
      by_cases hlt : capacity < a.length.toNat
      · simp [hlt, eq_comm]
      · simp [hlt]

theorem attempt_ok {len : Nat} (h : s.attempt w entrySize a = .inr (.returned (.ok len))) :
    ∃ bytes, s.capacityBytes w entrySize = some bytes ∧
      len = min a.length.toNat bytes / entrySize := by
  unfold attempt at h
  split at h
  · cases h
  · next bytes hb =>
    split at h
    · cases h
      exact ⟨bytes, hb, rfl⟩
    · split at h <;> cases h

theorem attempt_ne_unrecorded :
    s.attempt w entrySize a ≠ .inr (.panicked growthUnrecorded) := by
  unfold attempt
  split
  · simp [growthUnrecorded]
  · split
    · simp
    · split <;> simp

end PathStatisticsLoop

namespace Connection

variable {w entrySize : Nat} {answers : Nat → ParamAnswer}

theorem setLen_le (hE : 0 < entrySize) {s : PathStatisticsLoop} {a : ParamAnswer} {len : Nat}
    (h : s.attempt w entrySize a = .inr (.returned (.ok len))) : len ≤ s.entries := by
  obtain ⟨bytes, hb, rfl⟩ := PathStatisticsLoop.attempt_ok h
  have hle := PathStatisticsLoop.capacityBytes_le hb
  calc min a.length.toNat bytes / entrySize
      ≤ s.entries * entrySize / entrySize := Nat.div_le_div_right (by omega)
    _ = s.entries := Nat.mul_div_cancel _ hE

/-- **The last `expect` is not reached**: every attempt that goes on has recorded its status. -/
theorem getPathStatistics_recorded :
    getPathStatistics w entrySize answers ≠ .panicked growthUnrecorded := by
  unfold getPathStatistics
  split
  · next result hr =>
    obtain ⟨x, -, hx⟩ := exists_of_run_inr hr
    rintro rfl
    exact PathStatisticsLoop.attempt_ne_unrecorded hx
  · next s hs =>
    obtain ⟨x, -, hx⟩ := exists_of_run_inl (by decide) hs
    obtain ⟨-, status, -, -, -, rfl⟩ := PathStatisticsLoop.attempt_inl.mp hx
    simp [expect]

/-- Only the first attempt may allocate `2 ^ 32` bytes or more. -/
theorem pathAttempts_lt (h : initialEntries * entrySize < 2 ^ 32) :
    ∀ x ∈ pathAttempts w entrySize answers, x.1.entries * entrySize < 2 ^ 32 := by
  refine made_rule (I := fun (s : PathStatisticsLoop) => s.entries * entrySize < 2 ^ 32) ?_ h
  intro s a t _ ht
  obtain ⟨-, -, -, -, -, rfl⟩ := PathStatisticsLoop.attempt_inl.mp ht
  exact (Nat.div_mul_le_self _ _).trans_lt a.length.toNat_lt

theorem pathAttempts_none (h : ¬ initialEntries * entrySize < 2 ^ (w - 1)) :
    ∀ x ∈ pathAttempts w entrySize answers, x.1.capacityBytes w entrySize = none := by
  refine made_rule (I := fun (s : PathStatisticsLoop) => s.capacityBytes w entrySize = none) ?_
    (if_neg h)
  intro s a t hs ht
  obtain ⟨bytes, -, hb, -⟩ := PathStatisticsLoop.attempt_inl.mp ht
  cases hs.symm.trans hb

theorem pathAttempts_succ {k : Nat} {s : PathStatisticsLoop} {a : ParamAnswer} {bytes : Nat}
    (hk : (pathAttempts w entrySize answers)[k]? = some (s, a))
    (hb : s.capacityBytes w entrySize = some bytes) (ha : a.Asks bytes)
    (hlt : k + 1 < pathStatisticsAttempts) :
    ∃ status, (pathAttempts w entrySize answers)[k + 1]? =
      some (⟨a.length.toNat / entrySize, some status⟩, answers (k + 1)) := by
  obtain ⟨⟨status, hr⟩, hmore⟩ := ha
  exact ⟨status, getElem?_made_succ.mpr ⟨hlt, rfl, s, a, hk,
    PathStatisticsLoop.attempt_inl.mpr ⟨bytes, status, hb, hr, hmore, rfl⟩⟩⟩

theorem keepsAsking_of_lt {k : Nat}
    (h : ∀ j < k, (answers j).Asks (askedBefore entrySize answers j))
    (hk : (answers k).Asks (askedBefore entrySize answers k)) :
    KeepsAsking entrySize answers k := by
  intro j hj
  rcases Nat.lt_or_eq_of_le hj with hj | rfl
  · exact h j hj
  · exact hk

/-! ## Whole entries are enough -/

/-- Where what is asked for is whole, each attempt offers what was asked for before it. -/
theorem asked_of_attempt (h : AsksWhole w entrySize answers) {k : Nat} {s : PathStatisticsLoop}
    {a : ParamAnswer} {bytes : Nat} (hk : (pathAttempts w entrySize answers)[k]? = some (s, a))
    (hb : s.capacityBytes w entrySize = some bytes) :
    a = answers k ∧ bytes = askedBefore entrySize answers k ∧
      ∀ j < k, (answers j).Asks (askedBefore entrySize answers j) := by
  have h32 := pathAttempts_lt h.1 _ (List.mem_of_getElem? hk)
  have hbytes := ((PathStatisticsLoop.capacityBytes_iff h32).mp hb).2
  induction k generalizing s a bytes with
  | zero =>
    obtain ⟨rfl, rfl⟩ := Prod.mk.inj (Option.some.inj hk)
    exact ⟨rfl, hbytes, fun j hj => absurd hj (Nat.not_lt_zero j)⟩
  | succ k ih =>
    obtain ⟨hlt, rfl, s', a', hk', ht⟩ := getElem?_made_succ.mp hk
    obtain ⟨bytes', status, hb', hr, hmore, rfl⟩ := PathStatisticsLoop.attempt_inl.mp ht
    have h32' := pathAttempts_lt h.1 _ (List.mem_of_getElem? hk')
    have hbytes' := ((PathStatisticsLoop.capacityBytes_iff h32').mp hb').2
    obtain ⟨rfl, rfl, hasks⟩ := ih hk' hb' h32' hbytes'
    have hall : KeepsAsking entrySize answers k :=
      keepsAsking_of_lt hasks ⟨⟨status, hr⟩, hmore⟩
    have hwhole : (answers k).length.toNat / entrySize * entrySize = (answers k).length.toNat :=
      Nat.div_mul_cancel (h.2 k hlt hall).1
    exact ⟨rfl, hbytes.trans hwhole, fun j hj => hall j (Nat.le_of_lt_succ hj)⟩

theorem growsSafely_of_asksWhole (hE : 0 < entrySize) (h : AsksWhole w entrySize answers) :
    GrowsSafely w entrySize answers where
  setLen x _ len hx := setLen_le hE hx
  capacity x hx bytes hb :=
    ((PathStatisticsLoop.capacityBytes_iff (pathAttempts_lt h.1 x hx)).mp hb).2
  recorded := getPathStatistics_recorded
  grows := by
    intro k s a bytes hk hb ha hlt
    obtain ⟨rfl, rfl, hasks⟩ := asked_of_attempt h hk hb
    obtain ⟨hdvd, hw⟩ := h.2 k hlt (keepsAsking_of_lt hasks ha)
    obtain ⟨status, hnext⟩ := pathAttempts_succ hk hb ha hlt
    have heq : (answers k).length.toNat / entrySize * entrySize = (answers k).length.toNat :=
      Nat.div_mul_cancel hdvd
    have h32 := pathAttempts_lt h.1 _ (List.mem_of_getElem? hnext)
    refine ⟨_, _, hnext, (PathStatisticsLoop.capacityBytes_iff h32).mpr ⟨?_, rfl⟩,
      Nat.le_of_eq heq.symm⟩
    show (answers k).length.toNat / entrySize * entrySize < _
    rw [heq]
    exact hw

/-! ## Whole entries are necessary -/

theorem whole_of_grows (h : GrowsSafely w entrySize answers)
    (h32 : initialEntries * entrySize < 2 ^ 32) {k : Nat} {s : PathStatisticsLoop}
    {a : ParamAnswer} {bytes : Nat} (hk : (pathAttempts w entrySize answers)[k]? = some (s, a))
    (hb : s.capacityBytes w entrySize = some bytes) (ha : a.Asks bytes)
    (hlt : k + 1 < pathStatisticsAttempts) :
    entrySize ∣ a.length.toNat ∧ a.length.toNat < 2 ^ (w - 1) := by
  obtain ⟨x, bytes', hx, hb', hle⟩ := h.grows k s a bytes hk hb ha hlt
  obtain ⟨status, hnext⟩ := pathAttempts_succ hk hb ha hlt
  obtain rfl := Option.some.inj (hnext.symm.trans hx)
  have h32' := pathAttempts_lt h32 _ (List.mem_of_getElem? hnext)
  obtain ⟨hw, rfl⟩ := (PathStatisticsLoop.capacityBytes_iff h32').mp hb'
  have heq : a.length.toNat / entrySize * entrySize = a.length.toNat :=
    Nat.le_antisymm (Nat.div_mul_le_self _ _) hle
  exact ⟨Dvd.intro_left _ heq, heq ▸ hw⟩

theorem asksWhole_of_growsSafely (h : GrowsSafely w entrySize answers)
    (hw : initialEntries * entrySize < 2 ^ (w - 1)) : AsksWhole w entrySize answers := by
  let start : PathStatisticsLoop := { entries := initialEntries, lastStatus := none }
  have h32 : initialEntries * entrySize < 2 ^ 32 := by
    have hcap := h.capacity (start, answers 0) List.mem_cons_self _ (if_pos hw)
    rw [← hcap]
    exact Nat.mod_lt _ (Nat.two_pow_pos 32)
  -- by induction, the attempts up to `k` have been offered what was asked for
  have hall (k : Nat) (hlt : k + 1 < pathStatisticsAttempts)
      (hk : KeepsAsking entrySize answers k) :
      ∃ s, (pathAttempts w entrySize answers)[k]? = some (s, answers k) ∧
        s.capacityBytes w entrySize = some (askedBefore entrySize answers k) := by
    induction k with
    | zero =>
      exact ⟨start, rfl, (PathStatisticsLoop.capacityBytes_iff (s := start) h32).mpr ⟨hw, rfl⟩⟩
    | succ k ih =>
      obtain ⟨s, hs, hb⟩ := ih (by omega) fun j hj => hk j (by omega)
      have ha := hk k (by omega)
      obtain ⟨hdvd, hw'⟩ := whole_of_grows h h32 hs hb ha (by omega)
      obtain ⟨status, hnext⟩ := pathAttempts_succ hs hb ha (by omega)
      have heq : (answers k).length.toNat / entrySize * entrySize = (answers k).length.toNat :=
        Nat.div_mul_cancel hdvd
      have h32' := pathAttempts_lt h32 _ (List.mem_of_getElem? hnext)
      refine ⟨_, hnext, (PathStatisticsLoop.capacityBytes_iff h32').mpr ⟨?_, heq.symm⟩⟩
      show (answers k).length.toNat / entrySize * entrySize < _
      rw [heq]
      exact hw'
  refine ⟨h32, fun k hlt hk => ?_⟩
  obtain ⟨s, hs, hb⟩ := hall k hlt hk
  exact whole_of_grows h h32 hs hb (hk k (Nat.le_refl k)) hlt

/-- **The vector grows safely, exactly if** its first bytes fit in 32 bits and every answer that
asks for more asks for a whole number of entries that can be allocated; or if not even the
first vector can be. -/
theorem path_statistics_grow_iff (hE : 0 < entrySize) :
    GrowsSafely w entrySize answers ↔
      (initialEntries * entrySize < 2 ^ (w - 1) → AsksWhole w entrySize answers) := by
  refine ⟨asksWhole_of_growsSafely, fun h => ?_⟩
  by_cases hw : initialEntries * entrySize < 2 ^ (w - 1)
  · exact growsSafely_of_asksWhole hE (h hw)
  · have hnone : ∀ x ∈ pathAttempts w entrySize answers, x.1.capacityBytes w entrySize = none :=
      pathAttempts_none hw
    constructor
    · exact fun x _ len hx => setLen_le hE hx
    · intro x hx bytes hb
      cases (hnone x hx).symm.trans hb
    · exact getPathStatistics_recorded
    · intro k s a bytes hk hb
      cases (hnone _ (List.mem_of_getElem? hk)).symm.trans hb

/-- MsQuic has five entries of 200 bytes: it asks for them, and fills them at the second attempt. -/
theorem path_statistics_grow_five :
    ∃ answers : Nat → ParamAnswer, (answers 0).Asks (initialEntries * 200) ∧
      getPathStatistics 64 200 answers = .returned (.ok 5) ∧ GrowsSafely 64 200 answers := by
  refine ⟨fun k => if k = 0 then ⟨.error 75, 1000⟩ else ⟨.ok (), 1000⟩, ⟨⟨75, rfl⟩, by decide⟩,
    rfl, (path_statistics_grow_iff (by decide)).mpr ?_⟩
  refine fun _ => ⟨by decide, fun k _ hk => ?_⟩
  cases k with
  | zero => decide
  | succ k =>
    obtain ⟨⟨status, hs⟩, -⟩ := hk (k + 1) (Nat.le_refl _)
    cases hs

/-- MsQuic asks for one byte more than it is offered: it is offered as much again, and again,
until the attempts are used up. -/
theorem path_statistics_stuck :
    ∃ answers : Nat → ParamAnswer, (∀ k, answers k = ⟨.error 75, 801⟩) ∧
      (pathAttempts 64 200 answers).map (fun x => x.1.capacityBytes 64 200) =
        [some 800, some 800, some 800, some 800] ∧
      getPathStatistics 64 200 answers = .returned (.error (.otherError 75)) ∧
      ¬ GrowsSafely 64 200 answers := by
  refine ⟨fun _ => ⟨.error 75, 801⟩, fun _ => rfl, rfl, rfl, fun h => ?_⟩
  obtain ⟨x, bytes, hx, hb, hle⟩ := h.grows 0 _ _ 800 rfl rfl ⟨⟨75, rfl⟩, by decide⟩ (by decide)
  obtain rfl := Option.some.inj hx
  have hbytes : bytes = 800 := (Option.some.inj hb).symm
  rw [hbytes] at hle
  exact absurd hle (by decide)

end Connection

end MsquicAsync
