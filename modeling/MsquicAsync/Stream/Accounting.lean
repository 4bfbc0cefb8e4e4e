import MsquicAsync.Lib.Tiling
import MsquicAsync.Stream.ReadEffect

/-!
# The accounting of received buffers

`Accounting` ties the set of completed ranges, its cursor, the queue, the held
buffers and the released ones together. It holds in every run, whatever MsQuic
sends: every received buffer is queued, held or released, the set covers exactly
the ranges of the released ones, and the lengths returned so far add up to the
cursor.
-/

namespace MsquicAsync

open Runs Ranges Tiling
open Ranges.RangeSet (contains)

variable {R ω : Type}

/-! ## Histories -/

/-- A Receive event, as far as a buffer is made of it. -/
structure Receive where
  absoluteOffset : UInt64
  buffers : List QuicBuffer
  fin : Bool

namespace Receive

def buffer (w : Nat) (r : Receive) : StreamRecvBuffer :=
  .new (r.absoluteOffset.toNat % 2 ^ w) r.buffers r.fin

def bytes (r : Receive) : Bytes := r.buffers.flatMap QuicBuffer.bytes

def span (r : Receive) : Nat × Nat := (r.absoluteOffset.toNat, r.bytes.length)

end Receive

def StreamLabel.receive? : StreamLabel ω → Option Receive
  | .event (.receive absoluteOffset _ buffers flags) => some ⟨absoluteOffset, buffers, flags.fin⟩
  | _ => none

def StreamLabel.IsShutdownComplete : StreamLabel ω → Prop
  | .event (.shutdownComplete _ _ _ _ _ _) => True
  | _ => False

/-- The Receive events of a history, newest first. -/
def receives (tr : List (StreamStep R ω)) : List Receive := tr.filterMap fun e => e.label.receive?

/-- The number of bytes received. -/
def receivedLen (tr : List (StreamStep R ω)) : Nat :=
  ((receives tr).map fun r => r.bytes.length).sum

/-- The buffers that a step releases: one that its reader drops, or those that
ShutdownComplete discards. -/
def StreamSys.releases (s : StreamSys R ω) : StreamLabel ω → List StreamRecvBuffer
  | .call (.dropRecvBuffer i) => s.held[i]?.toList
  | .event (.shutdownComplete _ _ _ _ _ _) =>
    if s.inner.state = .shutdownComplete then [] else s.inner.recvBuffers
  | _ => []

def released (tr : List (StreamStep R ω)) : List StreamRecvBuffer :=
  tr.flatMap fun e => e.pre.releases e.label

/-- The sum of the lengths that `register_read_complete` has returned. -/
def completedLen (tr : List (StreamStep R ω)) : Nat :=
  (tr.flatMap fun e => registered e.out.calls).sum

/-! ## Registering ranges -/

theorem registered_append (calls calls' : List StreamCall) :
    registered (calls ++ calls') = registered calls ++ registered calls' :=
  List.filterMap_append

theorem Stream.readComplete_spec [RangeSet R] (w : Nat) (x : StreamInner R ω) (b : StreamRecvBuffer) :
    (readComplete w x b).state = (registerBuffer w x b).1 ∧
      registered (readComplete w x b).calls = (registerBuffer w x b).2.toList := by
  unfold readComplete
  rcases registerBuffer w x b with ⟨y, _ | len⟩ <;> exact ⟨rfl, rfl⟩

/-- The set after `[a, b)` is registered; an empty range is not inserted. -/
def addRange [RangeSet R] (r : R) (x : Nat × Nat) : R :=
  if x.1 < x.2 then RangeSet.insert r x.1 x.2 else r

section

variable [RangeSet R] [LawfulRangeSet R]

theorem contains_addRange (r : R) (x : Nat × Nat) (p : Nat) :
    contains (addRange r x) p = true ↔ contains r p = true ∨ (x.1 ≤ p ∧ p < x.2) := by
  unfold addRange
  split
  · next h => exact LawfulRangeSet.contains_insert r p h
  · constructor
    · exact .inl
    · rintro (h | h)
      · exact h
      · omega

theorem prefixEnd_le_addRange (r : R) (x : Nat × Nat) : prefixEnd r ≤ prefixEnd (addRange r x) := by
  unfold addRange
  split
  · next h => exact prefixEnd_le_insert r h
  · exact Nat.le_refl _

/-- `y` is `x` with the completed ranges `map` and the cursor at the end of their prefix; the
lengths `lens` have been returned on the way. -/
structure Registers (x y : StreamInner R ω) (map : R) (lens : List Nat) : Prop where
  frame : y = { x with readCompleteMap := map, readCompleteCursor := prefixEnd map }
  lens : x.readCompleteCursor + lens.sum = prefixEnd map

/-- **What `register_read_complete` does**: it adds the range, moves the cursor to the end
of the completed prefix and returns by how much it moved. -/
theorem Stream.registerReadComplete_spec {x : StreamInner R ω}
    (h : x.readCompleteCursor = prefixEnd x.readCompleteMap) (range : Nat × Nat) (offset : Nat)
    (isEmpty fin : Bool) :
    Registers x (registerReadComplete x range offset isEmpty fin).1
      (addRange x.readCompleteMap range)
      (registerReadComplete x range offset isEmpty fin).2.toList := by
  have hle : x.readCompleteCursor ≤ prefixEnd (addRange x.readCompleteMap range) :=
    h ▸ prefixEnd_le_addRange _ _
  have hx : (if range.1 < range.2 then
      { x with readCompleteMap := RangeSet.insert x.readCompleteMap range.1 range.2 } else x) =
      { x with readCompleteMap := addRange x.readCompleteMap range } := by
    unfold addRange
    split <;> rfl
  simp only [registerReadComplete, hx]
  -- when the prefix has not grown, the cursor is already at its end
  have hsame (hp : prefixEnd (addRange x.readCompleteMap range) = x.readCompleteCursor)
      {o : Option Nat} (ho : o.toList.sum = 0) :
      Registers x { x with readCompleteMap := addRange x.readCompleteMap range }
        (addRange x.readCompleteMap range) o.toList :=
    ⟨by rw [hp], by rw [hp, ho]; rfl⟩
  split
  · next start stop hf =>
    split
    · next hc =>
      obtain ⟨rfl, hlt⟩ := hc
      have hp := prefixEnd_of_first hf
      exact ⟨by rw [hp], by rw [hp]; simp; omega⟩
    · next hc =>
      have hp : prefixEnd (addRange x.readCompleteMap range) = x.readCompleteCursor := by
        by_cases hs : start = 0
        · subst hs
          have hp := prefixEnd_of_first hf
          omega
        · have hp := prefixEnd_of_first_ne (r := addRange x.readCompleteMap range)
            fun e he => hs (by rw [hf] at he; simp_all)
          omega
      split
      · exact hsame hp rfl
      · exact hsame hp rfl
  · next hf =>
    have hp : prefixEnd (addRange x.readCompleteMap range) = x.readCompleteCursor := by
      have hp := prefixEnd_of_first_ne (r := addRange x.readCompleteMap range)
        fun e he => by rw [hf] at he; cases he
      omega
    split
    · exact hsame hp rfl
    · exact hsame hp rfl

/-- The set after the buffers are registered one after the other. -/
def addBuffers (w : Nat) (r : R) (bufs : List StreamRecvBuffer) : R :=
  bufs.foldl (fun r b => addRange r (b.range w)) r

theorem contains_addBuffers (w : Nat) (bufs : List StreamRecvBuffer) (r : R) (p : Nat) :
    contains (addBuffers w r bufs) p = true ↔
      contains r p = true ∨ ∃ b ∈ bufs, (b.range w).1 ≤ p ∧ p < (b.range w).2 := by
  induction bufs generalizing r with
  | nil => simp [addBuffers]
  | cons b bufs ih =>
    have := ih (addRange r (b.range w))
    simp only [addBuffers, List.foldl_cons] at this ⊢
    simp only [this, contains_addRange, List.mem_cons, exists_eq_or_imp, or_assoc]

theorem Stream.discardBuffers_spec (w : Nat) (appCloseInProgress : Bool)
    (bufs : List StreamRecvBuffer) {x : StreamInner R ω}
    (h : x.readCompleteCursor = prefixEnd x.readCompleteMap) :
    Registers x (discardBuffers w appCloseInProgress bufs x).1
      (addBuffers w x.readCompleteMap bufs)
      (registered (discardBuffers w appCloseInProgress bufs x).2) := by
  induction bufs generalizing x with
  | nil =>
    constructor
    · simp [discardBuffers, addBuffers, ← h]
    · simp [registered, discardBuffers, addBuffers, h]
  | cons b bufs ih =>
    obtain ⟨hy, hlen⟩ := registerReadComplete_spec h (b.range w) b.offset b.isEmpty b.fin
    have hz := ih (x := (registerBuffer w x b).1) (by rw [registerBuffer, hy])
    obtain ⟨hstate, calls, -, hreg, hcalls⟩ := discardBuffers_cons appCloseInProgress b bufs x
    have hcur : (registerBuffer w x b).1.readCompleteCursor =
        x.readCompleteCursor + (registerBuffer w x b).2.toList.sum := by
      rw [registerBuffer, hlen, hy]
    have hmap : (registerBuffer w x b).1.readCompleteMap =
        addRange x.readCompleteMap (b.range w) := by
      rw [registerBuffer, hy]
    rw [hmap] at hz
    refine ⟨?_, ?_⟩
    · rw [hstate, hz.frame, registerBuffer, hy]
      rfl
    · rw [hcalls, registered_append, hreg, List.sum_append, ← Nat.add_assoc, ← hcur]
      exact hz.lens

end

/-! ## The accounting -/

structure Accounting [RangeSet R] (w : Nat) (tr : List (StreamStep R ω)) (s : StreamSys R ω) :
    Prop where
  cursor : s.inner.readCompleteCursor = prefixEnd s.inner.readCompleteMap
  completed : completedLen tr = s.inner.readCompleteCursor
  contains : ∀ p, RangeSet.contains s.inner.readCompleteMap p = true ↔
    ∃ b ∈ released tr, (b.range w).1 ≤ p ∧ p < (b.range w).2
  perm : ((released tr ++ s.held ++ s.inner.recvBuffers).map StreamRecvBuffer.rewound).Perm
    ((receives tr).map (Receive.buffer w))
  delivered : ∀ b ∈ s.held, b.stream = true

section

variable {tr : List (StreamStep R ω)} {e : StreamStep R ω}

theorem receives_cons : receives (e :: tr) = e.label.receive?.toList ++ receives tr := by
  unfold receives
  rw [List.filterMap_cons]
  cases e.label.receive? <;> rfl

theorem released_cons : released (e :: tr) = e.pre.releases e.label ++ released tr := rfl

theorem completedLen_cons :
    completedLen (e :: tr) = (registered e.out.calls).sum + completedLen tr := by
  simp [completedLen]

theorem receivedLen_cons :
    receivedLen (e :: tr) = (e.label.receive?.toList.map fun r => r.bytes.length).sum +
      receivedLen tr := by
  simp [receivedLen, receives_cons]

variable [RangeSet R] {w : Nat} {s : StreamSys R ω}

theorem Accounting.start (h : s.inner.readCompleteMap = (RangeSet.new : R))
    (hc : s.inner.readCompleteCursor = 0) (hq : s.inner.recvBuffers = []) (hh : s.held = [])
    [LawfulRangeSet R] : Accounting w [] s where
  cursor := by rw [h, hc, prefixEnd_new]
  completed := by rw [hc]; rfl
  contains p := by simp [h, LawfulRangeSet.contains_new, released]
  perm := by simp [hq, hh, released, receives]
  delivered := by simp [hh]

/-- Steps that leave the ledger alone: the same buffers are queued or held, rewound. -/
theorem Accounting.quiet (h : Accounting w tr e.pre) (hrec : e.label.receive? = none)
    (hrel : e.pre.releases e.label = []) (hreg : registered e.out.calls = [])
    (hmap : e.post.inner.readCompleteMap = e.pre.inner.readCompleteMap)
    (hcur : e.post.inner.readCompleteCursor = e.pre.inner.readCompleteCursor)
    (hperm : ((e.post.held ++ e.post.inner.recvBuffers).map StreamRecvBuffer.rewound).Perm
      ((e.pre.held ++ e.pre.inner.recvBuffers).map StreamRecvBuffer.rewound))
    (hdel : ∀ b ∈ e.post.held, b.stream = true) : Accounting w (e :: tr) e.post where
  cursor := by rw [hmap, hcur, h.cursor]
  completed := by rw [completedLen_cons, hreg, hcur, h.completed]; simp
  contains p := by rw [released_cons, hrel, hmap]; exact h.contains p
  perm := by
    rw [released_cons, hrel, receives_cons, hrec, List.nil_append, List.append_assoc, List.map_append]
    refine (hperm.append_left _).trans ?_
    rw [← List.map_append, ← List.append_assoc]
    exact h.perm
  delivered := hdel

theorem Accounting.same (h : Accounting w tr e.pre) (hrec : e.label.receive? = none)
    (hrel : e.pre.releases e.label = []) (hreg : registered e.out.calls = [])
    (hmap : e.post.inner.readCompleteMap = e.pre.inner.readCompleteMap)
    (hcur : e.post.inner.readCompleteCursor = e.pre.inner.readCompleteCursor)
    (hq : e.post.inner.recvBuffers = e.pre.inner.recvBuffers) (hh : e.post.held = e.pre.held) :
    Accounting w (e :: tr) e.post :=
  h.quiet hrec hrel hreg hmap hcur (by rw [hq, hh]) (by rw [hh]; exact h.delivered)

theorem Accounting.release [LawfulRangeSet R] (h : Accounting w tr e.pre)
    (hrec : e.label.receive? = none) (bufs : List StreamRecvBuffer)
    (hrel : e.pre.releases e.label = bufs)
    (hmap : e.post.inner.readCompleteMap = addBuffers w e.pre.inner.readCompleteMap bufs)
    (hcur : e.post.inner.readCompleteCursor = prefixEnd e.post.inner.readCompleteMap)
    (hlens : e.pre.inner.readCompleteCursor + (registered e.out.calls).sum =
      e.post.inner.readCompleteCursor)
    (hperm : (bufs ++ (e.post.held ++ e.post.inner.recvBuffers)).Perm
      (e.pre.held ++ e.pre.inner.recvBuffers))
    (hdel : ∀ b ∈ e.post.held, b.stream = true) : Accounting w (e :: tr) e.post where
  cursor := hcur
  completed := by rw [completedLen_cons, h.completed, Nat.add_comm, hlens]
  contains p := by
    rw [released_cons, hrel, hmap, contains_addBuffers, h.contains]
    simp only [List.mem_append, or_and_right, exists_or]
    exact or_comm
  perm := by
    rw [released_cons, hrel, receives_cons, hrec]
    refine List.Perm.trans (List.Perm.map _ ?_) h.perm
    rw [List.append_assoc, List.append_assoc (released tr)]
    refine (List.perm_append_comm.append_right _).trans ?_
    rw [List.append_assoc]
    exact hperm.append_left _
  delivered := hdel

end

theorem map_set_of_get {α β : Type} {f : α → β} {l : List α} {i : Nat} {a a' : α}
    (h : l[i]? = some a) (hf : f a' = f a) : (l.set i a').map f = l.map f := by
  obtain ⟨hi, rfl⟩ := List.getElem?_eq_some_iff.mp h
  have hi' : i < (l.map f).length := by simpa using hi
  rw [List.map_set, hf, ← List.getElem_map f (h := hi'), List.set_getElem_self]

section

variable [RangeSet R] [WillWake ω] [StatusApi] {w : Nat} {ok : StreamContract R ω}
  {tr : List (StreamStep R ω)} {s : StreamSys R ω}

theorem Accounting.moveHeld {l : StreamLabel ω} {i : Nat} {b b' : StreamRecvBuffer}
    (h : Accounting w tr s) (hrec : l.receive? = none) (hrel : s.releases l = [])
    (hget : s.held[i]? = some b) (hb : ∃ c k, b' = b.withCursor c k)
    (hstep : (s.step w l).state = { s with held := s.held.set i b' })
    (hcalls : (s.step w l).calls = []) :
    Accounting w ((streamSystem w ok).take s l :: tr) (s.step w l).state := by
  obtain ⟨c, k, rfl⟩ := hb
  refine h.quiet (e := (streamSystem w ok).take s l) hrec hrel (congrArg registered hcalls)
    (congrArg (fun t => t.inner.readCompleteMap) hstep)
    (congrArg (fun t => t.inner.readCompleteCursor) hstep) ?_ ?_
  · show (((s.step w l).state.held ++ (s.step w l).state.inner.recvBuffers).map _).Perm _
    rw [hstep, List.map_append, List.map_append,
      map_set_of_get hget (StreamRecvBuffer.rewound_withCursor b c k)]
    rfl
  · show ∀ x ∈ (s.step w l).state.held, x.stream = true
    rw [hstep]
    intro x hx
    rcases List.mem_or_eq_of_mem_set hx with hx | rfl
    · exact h.delivered x hx
    · exact h.delivered b (List.mem_of_getElem? hget)

theorem StreamSys.step_drop {i : Nat} {b : StreamRecvBuffer} (hget : s.held[i]? = some b)
    (hb : b.stream = true) :
    s.step w (.call (.dropRecvBuffer i)) =
      { s with held := s.held.eraseIdx i }.after (Stream.readComplete w s.inner b)
        fun _ => .unit := by
  simp only [StreamSys.step, StreamSys.call, hget, Stream.dropRecvBuffer, hb, if_true]

theorem StreamSys.registered_drop {i : Nat} {b : StreamRecvBuffer} (hget : s.held[i]? = some b)
    (hb : b.stream = true) :
    registered (s.step w (.call (.dropRecvBuffer i))).calls =
      (Stream.registerBuffer w s.inner b).2.toList := by
  rw [StreamSys.step_drop hget hb, StreamSys.after_calls]
  exact (Stream.readComplete_spec w s.inner b).2

variable [LawfulRangeSet R]

theorem Accounting.drop {i : Nat} {b : StreamRecvBuffer} (h : Accounting w tr s)
    (hget : s.held[i]? = some b) :
    Accounting w ((streamSystem w ok).take s (.call (.dropRecvBuffer i)) :: tr)
      (s.step w (.call (.dropRecvBuffer i))).state := by
  have hb := h.delivered b (List.mem_of_getElem? hget)
  obtain ⟨hy, hlen⟩ := Stream.registerReadComplete_spec h.cursor (b.range w) b.offset b.isEmpty
    b.fin
  have hstep := StreamSys.step_drop (w := w) hget hb
  have hstate := (Stream.readComplete_spec w s.inner b).1
  have hinner : (s.step w (.call (.dropRecvBuffer i))).state.inner =
      { s.inner with
        readCompleteMap := addRange s.inner.readCompleteMap (b.range w)
        readCompleteCursor := prefixEnd (addRange s.inner.readCompleteMap (b.range w)) } := by
    rw [hstep, StreamSys.after_inner, hstate, Stream.registerBuffer, hy]
  have hheld : (s.step w (.call (.dropRecvBuffer i))).state.held = s.held.eraseIdx i := by
    rw [hstep]
    rfl
  refine h.release (e := (streamSystem w ok).take s _) rfl [b] ?_ ?_ ?_ ?_ ?_ ?_
  · simp [StreamSys.releases, hget]
  · exact congrArg (fun y => y.readCompleteMap) hinner
  · exact (congrArg (fun y => y.readCompleteCursor) hinner).trans
      (congrArg (fun y => prefixEnd y.readCompleteMap) hinner).symm
  · show _ + (registered (s.step w (.call (.dropRecvBuffer i))).calls).sum = _
    rw [StreamSys.registered_drop hget hb]
    exact hlen.trans (congrArg (fun y => y.readCompleteCursor) hinner).symm
  · show ([b] ++ ((s.step w (.call (.dropRecvBuffer i))).state.held ++
      (s.step w (.call (.dropRecvBuffer i))).state.inner.recvBuffers)).Perm _
    rw [hheld, hinner]
    obtain ⟨hi, rfl⟩ := List.getElem?_eq_some_iff.mp hget
    exact (List.getElem_cons_eraseIdx_perm hi).append_right s.inner.recvBuffers
  · show ∀ x ∈ (s.step w (.call (.dropRecvBuffer i))).state.held, _
    rw [hheld]
    exact fun x hx => h.delivered x (List.mem_of_mem_eraseIdx hx)

theorem Accounting.discard {cs ac ba cr : Bool} {ec : UInt64} {st : Status} (h : Accounting w tr s)
    (hs : s.inner.state ≠ .shutdownComplete) :
    Accounting w ((streamSystem w ok).take s (.event (.shutdownComplete cs ac ba cr ec st)) :: tr)
      (s.step w (.event (.shutdownComplete cs ac ba cr ec st))).state := by
  have hd := Stream.discardBuffers_spec w ac s.inner.recvBuffers
    (x := { s.inner with recvBuffers := [] }) h.cursor
  obtain ⟨hcalls, hstate⟩ := Stream.handleEventShutdownComplete_first (w := w) hs cs ac ba cr ec st
  rw [hd.frame] at hstate
  have hq : (s.step w (.event (.shutdownComplete cs ac ba cr ec st))).state.inner.recvBuffers = [] :=
    congrArg (fun y => y.recvBuffers) hstate
  refine h.release (e := (streamSystem w ok).take s _) rfl s.inner.recvBuffers ?_
    (congrArg (fun y => y.readCompleteMap) hstate) ?_ ?_ ?_ h.delivered
  · simp [StreamSys.releases, hs]
  · exact (congrArg (fun y => y.readCompleteCursor) hstate).trans
      (congrArg (fun y => prefixEnd y.readCompleteMap) hstate).symm
  · refine Eq.trans ?_ (hd.lens.trans (congrArg (fun y => y.readCompleteCursor) hstate).symm)
    rw [← hcalls]
    rfl
  · rw [System.take_post]
    show (s.inner.recvBuffers ++ (s.held ++
      (s.step w (.event (.shutdownComplete cs ac ba cr ec st))).state.inner.recvBuffers)).Perm _
    rw [hq, List.append_nil]
    exact List.perm_append_comm

theorem Accounting.call (h : Accounting w tr s) (op : StreamOp ω) :
    Accounting w ((streamSystem w ok).take s (.call op) :: tr) (s.step w (.call op)).state := by
  -- a call that changes nothing in the ledger
  have hsame {y : StreamInner R ω} (hy : (s.call w op).state.inner = y)
      (hrel : s.releases (.call op) = [])
      (hreg : registered (s.call w op).calls = [])
      (hmap : y.readCompleteMap = s.inner.readCompleteMap)
      (hcur : y.readCompleteCursor = s.inner.readCompleteCursor)
      (hq : y.recvBuffers = s.inner.recvBuffers) (hh : (s.call w op).state.held = s.held) :
      Accounting w ((streamSystem w ok).take s (.call op) :: tr) (s.step w (.call op)).state := by
    subst hy
    exact h.same (e := (streamSystem w ok).take s (.call op)) rfl hrel hreg hmap hcur hq hh
  have hidle (hs : (s.call w op).state = s) (hc : (s.call w op).calls = [])
      (hrel : s.releases (.call op) = []) :
      Accounting w ((streamSystem w ok).take s (.call op) :: tr) (s.step w (.call op)).state :=
    hsame (congrArg (fun t => t.inner) hs) hrel (congrArg registered hc) rfl rfl rfl
      (congrArg (fun t => t.held) hs)
  have hwrite (hop : op.IsWrite) (hrel : s.releases (.call op) = []) :
      Accounting w ((streamSystem w ok).take s (.call op) :: tr) (s.step w (.call op)).state := by
    obtain ⟨⟨⟨_, _, _, _, hy⟩, -, hreg⟩, hh⟩ := StreamSys.call_write (w := w) (s := s) hop
    exact hsame hy hrel hreg rfl rfl rfl hh
  have hread (hop : op.IsRead) (hrel : s.releases (.call op) = []) :
      Accounting w ((streamSystem w ok).take s (.call op) :: tr) (s.step w (.call op)).state := by
    obtain ⟨popped, hheld, he⟩ := StreamSys.call_read (w := w) (s := s) hop
    obtain ⟨_, _, _, _, hy⟩ := he.frame
    refine h.quiet (e := (streamSystem w ok).take s (.call op)) rfl hrel
      (congrArg registered he.calls) (congrArg (fun y => y.readCompleteMap) hy)
      (congrArg (fun y => y.readCompleteCursor) hy) ?_ ?_
    · show (((s.call w op).state.held ++ (s.call w op).state.inner.recvBuffers).map _).Perm
        ((s.held ++ s.inner.recvBuffers).map _)
      rw [hheld, List.append_assoc, List.map_append, ← he.rewound, ← List.map_append]
    · show ∀ x ∈ (s.call w op).state.held, _
      rw [hheld]
      intro x hx
      rcases List.mem_append.mp hx with hx | hx
      · exact h.delivered x hx
      · exact he.delivered x hx
  cases op with
  | pollWrite | pollWriteChunk | pollWriteChunks | pollFinishWrite | pollAbortWrite | abortWrite =>
    exact hwrite trivial rfl
  | pollStart cx failedOnBlock native =>
    obtain ⟨⟨_, _, _, _, _, _, hy⟩, -, hreg⟩ := Stream.startSide_pollStart s.inner cx failedOnBlock
      native
    exact hsame hy rfl hreg rfl rfl rfl rfl
  | pollRead | pollReadBuf | pollReadChunk => exact hread trivial rfl
  | pollAbortRead cx errorCode native =>
    obtain ⟨⟨_, _, _, hy⟩, hreg⟩ := Stream.abortSide_pollAbortRead s.inner cx errorCode native
    exact hsame hy rfl hreg rfl rfl rfl rfl
  | abortRead errorCode native =>
    obtain ⟨⟨_, _, _, hy⟩, hreg⟩ := Stream.abortSide_abortRead s.inner errorCode native
    exact hsame hy rfl hreg rfl rfl rfl rfl
  | dropRecvBuffer i =>
    cases hget : s.held[i]? with
    | some b => exact h.drop hget
    | none =>
      exact hidle (by simp only [StreamSys.call, hget]) (by simp only [StreamSys.call, hget])
        (by simp [StreamSys.releases, hget])
  | advance i count =>
    cases hget : s.held[i]? with
    | some b =>
      cases ha : b.advance count with
      | returned b' =>
        exact h.moveHeld rfl rfl hget (StreamRecvBuffer.advance_cursor ha)
          (by simp [StreamSys.step, StreamSys.call, hget, ha])
          (by simp [StreamSys.step, StreamSys.call, hget, ha])
      | panicked message =>
        exact hidle (by simp only [StreamSys.call, hget, ha])
          (by simp only [StreamSys.call, hget, ha]) rfl
    | none =>
      exact hidle (by simp only [StreamSys.call, hget]) (by simp only [StreamSys.call, hget]) rfl
  | getBytesUptoSize i size =>
    cases hget : s.held[i]? with
    | some b =>
      cases hg : b.getBytesUptoSize size with
      | some p =>
        exact h.moveHeld rfl rfl hget (StreamRecvBuffer.getBytesUptoSize_cursor hg)
          (by simp [StreamSys.step, StreamSys.call, hget, hg])
          (by simp [StreamSys.step, StreamSys.call, hget, hg])
      | none =>
        exact hidle (by simp only [StreamSys.call, hget, hg])
          (by simp only [StreamSys.call, hget, hg]) rfl
    | none =>
      exact hidle (by simp only [StreamSys.call, hget]) (by simp only [StreamSys.call, hget]) rfl

theorem Accounting.event (h : Accounting w tr s) (ev : MsquicStreamEvent) :
    Accounting w ((streamSystem w ok).take s (.event ev) :: tr) (s.step w (.event ev)).state := by
  have hsame {y : StreamInner R ω} (hy : (s.dispatchEvent w ev).state.inner = y)
      (hrec : (.event ev : StreamLabel ω).receive? = none)
      (hrel : s.releases (.event ev) = [])
      (hreg : registered (s.dispatchEvent w ev).calls = [])
      (hmap : y.readCompleteMap = s.inner.readCompleteMap)
      (hcur : y.readCompleteCursor = s.inner.readCompleteCursor)
      (hq : y.recvBuffers = s.inner.recvBuffers) (hh : (s.dispatchEvent w ev).state.held = s.held) :
      Accounting w ((streamSystem w ok).take s (.event ev) :: tr)
        (s.step w (.event ev)).state := by
    subst hy
    exact h.same (e := (streamSystem w ok).take s (.event ev)) hrec hrel hreg hmap hcur hq hh
  cases ev with
  | receive absoluteOffset totalBufferLength buffers flags =>
    exact
      { cursor := h.cursor
        completed := h.completed
        contains := h.contains
        perm := by
          show (((released tr ++ s.held ++ (s.inner.recvBuffers ++ [_]))).map _).Perm
            (_ :: (receives tr).map (Receive.buffer w))
          rw [← List.append_assoc, List.map_append]
          refine List.perm_append_comm.trans ?_
          exact h.perm.cons _
        delivered := h.delivered }
  | shutdownComplete connectionShutdown appCloseInProgress connectionShutdownByApp
      connectionClosedRemotely connectionErrorCode connectionCloseStatus =>
    by_cases hs : s.inner.state = .shutdownComplete
    · have hr := Stream.handleEventShutdownComplete_again (w := w) hs connectionShutdown
        appCloseInProgress connectionShutdownByApp connectionClosedRemotely connectionErrorCode
        connectionCloseStatus
      exact hsame (y := s.inner) (congrArg (fun r => r.state) hr) rfl
        (by simp [StreamSys.releases, hs]) (congrArg (fun r => registered r.calls) hr) rfl rfl rfl rfl
    · exact h.discard hs
  | startComplete status id peerAccepted =>
    obtain ⟨⟨_, _, _, _, _, _, hy⟩, -, hreg⟩ := Stream.startSide_startComplete s.inner status id
      peerAccepted
    exact hsame hy rfl rfl hreg rfl rfl rfl rfl
  | sendComplete canceled clientContext =>
    cases hf : WriteBuffer.fromRaw s.native clientContext with
    | none =>
      exact hsame (y := s.inner) (by simp only [StreamSys.dispatchEvent, hf]) rfl rfl
        (by simp only [StreamSys.dispatchEvent, hf]; rfl) rfl rfl rfl
        (by simp only [StreamSys.dispatchEvent, hf])
    | some p =>
      exact hsame (y := (Stream.handleEventSendComplete s.inner p.1).state)
        (by simp only [StreamSys.dispatchEvent, hf]; rfl) rfl rfl
        (by simp only [StreamSys.dispatchEvent, hf]; rfl) rfl rfl rfl
        (by simp only [StreamSys.dispatchEvent, hf]; rfl)
  | _ => exact hsame rfl rfl rfl rfl rfl rfl rfl rfl

theorem accounting_run (h : (streamSystem w ok).Run tr s) : Accounting w tr s := by
  refine h.invariant (I := Accounting w) ?_ ?_
  · rintro s (_ | _) <;> exact .start rfl rfl rfl rfl
  · intro tr s l _ _ ih
    cases l with
    | call op => exact ih.call op
    | event ev => exact ih.event ev

end

/-! ## Contiguous Receive events -/

/-- A Receive starts where the last one ended. -/
def Contiguous (tr : List (StreamStep R ω)) (l : StreamLabel ω) : Prop :=
  ∀ r, l.receive? = some r → r.absoluteOffset.toNat = receivedLen tr

section

variable [RangeSet R] {w : Nat} {tr : List (StreamStep R ω)} {s : StreamSys R ω}

theorem tiles_run [WillWake ω] [StatusApi] {ok : StreamContract R ω}
    (hok : ∀ {tr s l}, ok tr s l → Contiguous tr l)
    (h : (streamSystem w ok).Run tr s) :
    Tiles ((receives tr).map Receive.span) (receivedLen tr) := by
  refine h.invariant (I := fun tr _ => Tiles ((receives tr).map Receive.span) (receivedLen tr))
    (fun _ _ => rfl) fun tr s l _ hl ih => ?_
  cases hr : l.receive? with
  | none => simpa [receives_cons, receivedLen_cons, hr] using ih
  | some r =>
    have hoff := hok hl r hr
    simp only [receives_cons, receivedLen_cons, System.take_label, hr, Option.toList_some,
      List.singleton_append, List.map_cons, List.map_nil, List.sum_singleton, Receive.span, hoff]
    rw [Nat.add_comm]
    exact ih.append_cons

/-- A received buffer covers no more than its event's span, if its offset is not cut off. -/
theorem Receive.span_of_covers {r : Receive} {p : Nat}
    (hoff : r.bytes ≠ [] → r.absoluteOffset.toNat < 2 ^ w) (h : (r.buffer w).Covers p) :
    InSpan p r.span := by
  obtain ⟨h1, h2⟩ := h
  have hc : (r.buffer w).content = r.bytes := rfl
  have ho : (r.buffer w).offset = r.absoluteOffset.toNat % 2 ^ w := rfl
  rw [hc, ho] at h2
  rw [ho] at h1
  by_cases hb : r.bytes = []
  · rw [hb, List.length_nil] at h2
    omega
  · rw [Nat.mod_eq_of_lt (hoff hb)] at h1 h2
    exact ⟨h1, h2⟩

/-- **No byte belongs to two buffers**: a released buffer shares none with one that is still
held or queued. -/
theorem Accounting.disjoint (h : Accounting w tr s) {n : Nat}
    (ht : Tiles ((receives tr).map Receive.span) n)
    (hoff : ∀ r ∈ receives tr, r.bytes ≠ [] → r.absoluteOffset.toNat < 2 ^ w)
    {b b' : StreamRecvBuffer} (hb : b ∈ released tr) (hb' : b' ∈ s.held ++ s.inner.recvBuffers)
    {p : Nat} (hp : b.Covers p) : ¬ b'.Covers p := by
  have hrec : ((receives tr).map (Receive.buffer w)).Pairwise
      fun x y => ∀ p, x.Covers p → ¬ y.Covers p := by
    refine List.pairwise_map.mpr ((List.pairwise_map.mp ht.pairwise).imp_of_mem ?_)
    intro r r' hr hr' hd p h1 h2
    exact hd p (Receive.span_of_covers (hoff r hr) h1) (Receive.span_of_covers (hoff r' hr') h2)
  have hall := (h.perm.pairwise_iff fun {x y} (hd : ∀ p, x.Covers p → ¬ y.Covers p) p h1 h2 =>
    hd p h2 h1).mpr hrec
  rw [List.append_assoc, List.map_append] at hall
  exact (List.pairwise_append.mp hall).2.2 _ (List.mem_map_of_mem hb) _ (List.mem_map_of_mem hb') p hp

theorem Accounting.exists_receive (h : Accounting w tr s) {b : StreamRecvBuffer}
    (hb : b ∈ released tr ++ s.held ++ s.inner.recvBuffers) :
    ∃ r ∈ receives tr, r.buffer w = b.rewound :=
  List.mem_map.mp (h.perm.mem_iff.mp (List.mem_map_of_mem hb))

end

end MsquicAsync
