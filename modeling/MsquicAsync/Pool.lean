import MsquicAsync.Send

/-!
# What does not depend on the pool

A pool holds empty boxes, and a send that finds none makes one, so all that a
send shows of the pool is the address of its box. Two states are twins if they
differ in their pools only (`Twins`); a call that does not look at the pool, and
a send, do the same on twins but for addresses (`RanAlike`).
-/

namespace MsquicAsync

/-! ## Boxes -/

namespace WriteBuffer

theorem Empty.eq_new {b : WriteBuffer} (h : b.Empty) : b = new b.ptr := by
  obtain ⟨ptr, internal, zerocopy, buffers⟩ := b
  obtain ⟨rfl, rfl, rfl⟩ := h
  rfl

/-- A send fills a box that is new but for its address. -/
theorem popPool_eq {pool : List WriteBuffer} (h : ∀ b ∈ pool, b.Empty) (fresh : Nat) :
    ∃ ptr rest, popPool pool fresh = (new ptr, rest) :=
  ⟨_, _, Prod.ext (empty_popPool h fresh).eq_new rfl⟩

theorem empty_popPool_rest {pool : List WriteBuffer} (h : ∀ b ∈ pool, b.Empty) (fresh : Nat) :
    ∀ b ∈ (popPool pool fresh).2, b.Empty := by
  cases pool with
  | nil => exact fun b hb => by cases hb
  | cons b rest => exact fun c hc => h c (List.mem_cons_of_mem _ hc)

/-- The write function only keeps the address. -/
def KeepsPtr {α : Type} (writeFn : WriteBuffer → WriteBuffer × α) : Prop :=
  ∀ ptr, writeFn (new ptr) =
    ({ (writeFn (new 0)).1 with ptr := ptr }, (writeFn (new 0)).2)

theorem getBuffers_at (b : WriteBuffer) (ptr : Nat) :
    getBuffers { b with ptr := ptr } = ({ b.getBuffers.1 with ptr := ptr }, b.getBuffers.2) := by
  unfold getBuffers
  simp only
  split <;> rfl

/-- Where the box at an address is among the raw ones; behind them all if it is not there. -/
def place (raw : List WriteBuffer) (ptr : Nat) : Nat := (raw.map WriteBuffer.ptr).idxOf ptr

theorem fromRaw_eq (raw : List WriteBuffer) (ptr : Nat) :
    fromRaw raw ptr =
      raw[place raw ptr]?.map fun b => (b, raw.eraseIdx (place raw ptr)) := by
  induction raw with
  | nil => rfl
  | cons b raw ih =>
    unfold place at ih ⊢
    by_cases hp : b.ptr = ptr
    · simp [fromRaw, hp]
    · simp [fromRaw, hp, ih, Option.map_map, Function.comp_def]

theorem fromRaw_alike {raw raw' : List WriteBuffer} {ptr ptr' : Nat}
    (hlen : raw'.length = raw.length) (hplace : place raw ptr = place raw' ptr') :
    (fromRaw raw ptr = none ∧ fromRaw raw' ptr' = none) ∨
      ∃ b b' rest rest', fromRaw raw ptr = some (b, rest) ∧
        fromRaw raw' ptr' = some (b', rest') ∧ rest'.length = rest.length := by
  rw [fromRaw_eq, fromRaw_eq, ← hplace]
  by_cases hlt : place raw ptr < raw.length
  · have hlt' : place raw ptr < raw'.length := by omega
    rw [List.getElem?_eq_getElem hlt, List.getElem?_eq_getElem hlt']
    refine .inr ⟨_, _, _, _, rfl, rfl, ?_⟩
    rw [List.length_eraseIdx, List.length_eraseIdx, hlen]
  · have hge : raw[place raw ptr]? = none := List.getElem?_eq_none (by omega)
    have hge' : raw'[place raw ptr]? = none := List.getElem?_eq_none (by omega)
    rw [hge, hge']
    exact .inl ⟨rfl, rfl⟩

/-- A box at each place has an address of its own if no two have the same. -/
theorem exists_place {raw raw' : List WriteBuffer} {ptr : Nat}
    (hlen : raw'.length = raw.length) (hn : (raw'.map WriteBuffer.ptr).Nodup)
    (h : ∃ b ∈ raw, b.ptr = ptr) :
    ∃ ptr', (∃ b ∈ raw', b.ptr = ptr') ∧ place raw ptr = place raw' ptr' := by
  have hlt : place raw ptr < raw.length := by
    have hmem : ptr ∈ raw.map WriteBuffer.ptr := List.mem_map.mpr h
    unfold place
    simpa using List.idxOf_lt_length_of_mem hmem
  have hlt' : place raw ptr < raw'.length := by omega
  refine ⟨raw'[place raw ptr].ptr, ⟨_, List.getElem_mem hlt', rfl⟩, ?_⟩
  have hidx := List.Nodup.idxOf_getElem hn (place raw ptr) (by simpa using hlt')
  rw [List.getElem_map] at hidx
  exact hidx.symm

end WriteBuffer

theorem exists_fresh (held : List Nat) : ∃ a, a ∉ held := by
  obtain ⟨a, ha⟩ := Infinite.exists_notMem_finset held.toFinset
  exact ⟨a, fun h => ha (List.mem_toFinset.mpr h)⟩

/-- The pool `q` is `p`, or has one more box, which is empty. -/
inductive PoolGrows (p : List WriteBuffer) : List WriteBuffer → Prop where
  | same : PoolGrows p p
  | more {b : WriteBuffer} (h : b.Empty) : PoolGrows p (b :: p)

/-- **A refused send gives its box back**: it is the one it took, or it is new. -/
theorem poolGrows_refused {p : List WriteBuffer} {fresh : Nat} {b : WriteBuffer}
    (hp : b.ptr = (WriteBuffer.popPool p fresh).1.ptr) (h : ∀ b ∈ p, b.Empty) :
    PoolGrows p (b.reset :: (WriteBuffer.popPool p fresh).2) := by
  cases p with
  | nil => exact .more (WriteBuffer.empty_reset b)
  | cons c rest =>
    have hc : b.reset = c := by
      rw [(h c List.mem_cons_self).eq_new, (WriteBuffer.empty_reset b).eq_new]
      exact congrArg WriteBuffer.new hp
    rw [WriteBuffer.popPool, hc]
    exact .same

/-! ## Twins -/

/-- A state with a pool of write buffers. -/
class Pooled (σ : Type) where
  pool : σ → List WriteBuffer
  withPool : List WriteBuffer → σ → σ
  pool_withPool : ∀ p x, pool (withPool p x) = p
  withPool_pool : ∀ x, withPool (pool x) x = x
  withPool_withPool : ∀ p q x, withPool p (withPool q x) = withPool p x

/-- A call that may name a box. -/
class NamesBox (κ : Type) where
  /-- The call with the box's address left out. -/
  bare : κ → κ

section

open Pooled NamesBox

variable {σ ω κ ρ ρ' : Type} [Pooled σ] [NamesBox κ]

/-- `y` is `x` with another pool, and both pools hold empty boxes. -/
structure Twins (x y : σ) : Prop where
  eq : y = withPool (pool y) x
  left : ∀ b ∈ pool x, b.Empty
  right : ∀ b ∈ pool y, b.Empty

theorem Twins.exists_eq {x y : σ} (h : Twins x y) :
    ∃ q, y = withPool q x ∧ ∀ b ∈ q, b.Empty :=
  ⟨pool y, h.eq, h.right⟩

/-- What is shown, with the addresses of boxes left out. -/
def Out.bare (o : Out ω κ ρ) : Out ω κ ρ := { o with calls := o.calls.map NamesBox.bare }

/-- The calls leave twins behind and show the same. -/
structure RanAlike (r r' : Ran σ ω κ ρ) : Prop where
  state : Twins r.state r'.state
  out : r'.toOut.bare = r.toOut.bare

/-- The call does not look at the pool. -/
def Blind (f : σ → Ran σ ω κ ρ) : Prop := ∀ p x, f (withPool p x) = (f x).lift (withPool p) id

omit [NamesBox κ] in
theorem Blind.pool_eq {f : σ → Ran σ ω κ ρ} (hf : Blind f) (x : σ) :
    pool (f x).state = pool x := by
  have h := hf (pool x) x
  rw [withPool_pool] at h
  rw [h]
  exact pool_withPool _ _

theorem Blind.alike {f : σ → Ran σ ω κ ρ} (hf : Blind f) {x y : σ} (h : Twins x y) :
    RanAlike (f x) (f y) := by
  have hy : f y = (f x).lift (withPool (pool y)) id := by
    rw [← hf, ← h.eq]
  refine ⟨⟨?_, ?_, ?_⟩, ?_⟩
  · rw [hf.pool_eq y, hy]
    rfl
  · rw [hf.pool_eq x]
    exact h.left
  · rw [hf.pool_eq y]
    exact h.right
  · rw [hy]
    rfl

theorem RanAlike.result {r r' : Ran σ ω κ ρ} (h : RanAlike r r') : r'.result = r.result := by
  show r'.toOut.bare.result = _
  rw [h.out]
  rfl

theorem RanAlike.woken {r r' : Ran σ ω κ ρ} (h : RanAlike r r') : r'.woken = r.woken := by
  show r'.toOut.bare.woken = _
  rw [h.out]
  rfl

theorem RanAlike.calls {r r' : Ran σ ω κ ρ} (h : RanAlike r r') :
    r'.calls.map bare = r.calls.map bare :=
  congrArg Out.calls h.out

theorem RanAlike.lift {r r' : Ran σ ω κ ρ} (h : RanAlike r r') (g : ρ → ρ') :
    RanAlike (r.lift id g) (r'.lift id g) := by
  refine ⟨h.state, ?_⟩
  simp only [Out.bare, Ran.lift, h.result, h.woken, h.calls]

omit [NamesBox κ] in
theorem Blind.lift {f : σ → Ran σ ω κ ρ} (hf : Blind f) (g : ρ → ρ') :
    Blind fun x => (f x).lift id g := by
  intro p x
  show (f (withPool p x)).lift id g = _
  rw [hf p x]
  rfl

omit [NamesBox κ] in
theorem twins_self {x : σ} : Twins x x ↔ ∀ b ∈ pool x, b.Empty :=
  ⟨fun h => h.left, fun h => ⟨(withPool_pool x).symm, h, h⟩⟩

/-- The call `c` has been made and has failed with nothing else done: the pool may have one more
empty box. -/
structure Undone (x : σ) (c : κ) (answer : ρ) (r : Ran σ ω κ ρ) : Prop where
  state : ∃ p, PoolGrows (pool x) p ∧ r.state = withPool p x
  out : r.toOut = { result := answer, calls := [c] }

omit [NamesBox κ] in
theorem Undone.lift {x : σ} {c : κ} {answer : ρ} {r : Ran σ ω κ ρ} (h : Undone x c answer r)
    (g : ρ → ρ') : Undone x c (g answer) (r.lift id g) := by
  refine ⟨h.state, ?_⟩
  show ({ result := g r.result, woken := r.woken, calls := r.calls } : Out ω κ ρ') = _
  rw [h.out]

end

section

variable {κ ε : Type} (failed? : κ → Option ε) {c c' : κ} {e e' : ε}

theorem failed_eq (hc' : failed? c' = some e') (hc : c ∈ [c']) (hf : failed? c = some e) :
    c' = c ∧ e' = e := by
  obtain rfl := List.mem_singleton.mp hc
  exact ⟨rfl, Option.some.inj (hc'.symm.trans hf)⟩

theorem not_failed (hc' : failed? c' = none) (hc : c ∈ [c']) : failed? c ≠ some e := by
  obtain rfl := List.mem_singleton.mp hc
  rw [hc']
  exact fun h => by cases h

end

end MsquicAsync
