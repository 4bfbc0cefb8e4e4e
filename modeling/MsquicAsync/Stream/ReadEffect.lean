import MsquicAsync.Stream.Steps

/-!
# What a read does

A read pops a front part of the queue and hands out what the popped buffers had
left, and a part of the new front buffer. `Reads` says so of a read function,
`ReadEffect` of a poll, and `StreamSys.call_read` of the system.
-/

namespace MsquicAsync

open Runs Ranges Loops

variable {R ω : Type}

/-- The cursor stands inside its segment, and no segment is empty. -/
def StreamRecvBuffer.WellFormed (b : StreamRecvBuffer) : Prop :=
  b.Normal ∧ ∀ x ∈ b.buffers, x.bytes ≠ []

/-- What the buffers of a queue have left. -/
def unreadBytes (q : List StreamRecvBuffer) : Bytes := q.flatMap StreamRecvBuffer.unread

@[simp] theorem unreadBytes_nil : unreadBytes [] = [] := rfl

@[simp] theorem unreadBytes_cons (b : StreamRecvBuffer) (q : List StreamRecvBuffer) :
    unreadBytes (b :: q) = b.unread ++ unreadBytes q := rfl

@[simp] theorem unreadBytes_append (p q : List StreamRecvBuffer) :
    unreadBytes (p ++ q) = unreadBytes p ++ unreadBytes q := List.flatMap_append

def ReadStatus.value {α : Type} : ReadStatus α → Option α
  | readable a => some a
  | finished a | blocked a => a

/-- A read function took `popped` from the front of the queue `q` and hands out `out`: what
the popped buffers had left, and a part of the new front buffer. -/
structure Reads {α : Type} (q : List StreamRecvBuffer) (r : ReadFn α)
    (popped : List StreamRecvBuffer) (out : Bytes) : Prop where
  rewound : q.map StreamRecvBuffer.rewound = (popped ++ r.recvBuffers).map StreamRecvBuffer.rewound
  delivered : ∀ b ∈ popped, b.stream = true
  unread : unreadBytes q = out ++ unreadBytes r.recvBuffers
  finished : ∀ v, r.status = .finished v → ∃ b ∈ popped, b.fin = true
  blocked : r.status = .blocked none → r.recvBuffers = []
  wellFormed : (∀ b ∈ q, b.WellFormed) → ∀ b ∈ r.recvBuffers, b.WellFormed

namespace ReadLoop

variable {n : Nat} {got : ReadLoop n → Bool} {q : List StreamRecvBuffer} {s s' : ReadLoop n}

/-- What every iteration preserves. -/
structure Inv (q : List StreamRecvBuffer) (s : ReadLoop n) : Prop where
  rewound : q.map StreamRecvBuffer.rewound =
    (s.readCompleteBuffers ++ s.recvBuffers).map StreamRecvBuffer.rewound
  delivered : ∀ b ∈ s.readCompleteBuffers, b.stream = true
  unread : unreadBytes q = s.read ++ unreadBytes s.recvBuffers
  fin : s.fin = true → ∃ b ∈ s.readCompleteBuffers, b.fin = true
  copied : s.copied = false → s.read = []
  wellFormed : (∀ b ∈ q, b.WellFormed) →
    (∀ b ∈ s.recvBuffers, b.WellFormed) ∧ (s.copied = true → s.read ≠ [])

theorem inv_start : Inv q (start n q) where
  rewound := rfl
  delivered := nofun
  unread := rfl
  fin := nofun
  copied _ := rfl
  wellFormed h := ⟨h, nofun⟩

theorem Inv.body (h : Inv q s) (hb : body got s = .inl s') : Inv q s' := by
  have hle := s.read_le
  unfold ReadLoop.body at hb
  split at hb
  · cases hb
  next hn =>
    split at hb
    next b rest hq =>
      split at hb
      · next slice b' hg =>
        obtain rfl := Sum.inl.inj hb
        refine ⟨?_, h.delivered, ?_, h.fin, (fun hc => by cases hc), fun hq' => ?_⟩
        · rw [h.rewound, hq]
          simp [StreamRecvBuffer.getBytesUptoSize_rewound hg]
        · rw [h.unread, hq]
          simp [(StreamRecvBuffer.getBytesUptoSize_unread hg).1]
        · have hwf := (h.wellFormed hq').1
          rw [hq] at hwf
          obtain ⟨hnorm, hseg⟩ := hwf b List.mem_cons_self
          have hnorm' := StreamRecvBuffer.normal_getBytesUptoSize hg hseg
          refine ⟨List.forall_mem_cons.mpr ⟨⟨hnorm', ?_⟩, ?_⟩, fun _ => ?_⟩
          · rw [StreamRecvBuffer.getBytesUptoSize_buffers hg]
            exact hseg
          · exact fun x hx => hwf x (List.mem_cons_of_mem _ hx)
          · exact List.append_ne_nil_of_right_ne_nil _ (hnorm.slice_ne_nil hg (by omega))
      · next hg =>
        obtain rfl := Sum.inl.inj hb
        refine ⟨?_, ?_, ?_, fun hf => ?_, h.copied, fun hq' => ?_⟩
        · rw [h.rewound, hq]
          simp
        · intro x hx
          rcases List.mem_append.mp hx with hx | hx
          · exact h.delivered x hx
          · rw [List.mem_singleton.mp hx, StreamRecvBuffer.setStream_stream]
        · rw [h.unread, hq]
          simp [StreamRecvBuffer.getBytesUptoSize_none hg]
        · exact ⟨b.setStream, by simp, hf⟩
        · obtain ⟨hwf, hc⟩ := h.wellFormed hq'
          rw [hq] at hwf
          exact ⟨fun x hx => hwf x (List.mem_cons_of_mem _ hx), hc⟩
    · cases hb

theorem Inv.done {r : ReadFn Bytes} (h : Inv q s)
    (hgot : ∀ s, got s = false → s.copied = false ∨ s.read = [])
    (hb : ReadLoop.body got s = .inr r) :
    Reads q r r.readCompleteBuffers (r.status.value.getD []) := by
  unfold ReadLoop.body at hb
  split at hb
  · obtain rfl := Sum.inr.inj hb
    exact ⟨h.rewound, h.delivered, h.unread, (fun _ hv => by cases hv), (fun hv => by cases hv),
      fun hq => (h.wellFormed hq).1⟩
  · split at hb
    · split at hb <;> cases hb
    next hq =>
    obtain rfl := Sum.inr.inj hb
    have hrew := h.rewound
    have hun := h.unread
    rw [hq] at hrew hun
    have hread : got s = false → s.read = [] := fun hg => (hgot s hg).elim h.copied id
    refine ⟨hrew, h.delivered, ?_, fun v hv => h.fin ?_, fun _ => rfl, fun _ b hb => by cases hb⟩
    · rw [hun]
      cases hg : got s <;> cases s.fin <;> simp [ReadStatus.ofPair, ReadStatus.value, hread, hg]
    · cases hf : s.fin
      · simp [ReadStatus.ofPair, hf] at hv
      · rfl

end ReadLoop

theorem reads_readLoop {n : Nat} (got : ReadLoop n → Bool)
    (hgot : ∀ s, got s = false → s.copied = false ∨ s.read = []) (q : List StreamRecvBuffer) :
    Reads q ((readLoop n got).run (.start n q))
      ((readLoop n got).run (.start n q)).readCompleteBuffers
      (((readLoop n got).run (.start n q)).status.value.getD []) :=
  (readLoop n got).run_rule (I := ReadLoop.Inv q)
    (Q := fun r => Reads q r r.readCompleteBuffers (r.status.value.getD []))
    (fun _ _ h hb => h.body hb) (fun _ _ h hb => h.done hgot hb) ReadLoop.inv_start

theorem reads_popChunk (q : List StreamRecvBuffer) :
    Reads q (Stream.popChunk q) ((Stream.popChunk q).readCompleteBuffers ++
      (Stream.popChunk q).status.value.toList)
      (unreadBytes (Stream.popChunk q).status.value.toList) := by
  cases q with
  | nil => exact ⟨rfl, nofun, rfl, nofun, fun _ => rfl, fun h => h⟩
  | cons b rest =>
    have hv : (Stream.popChunk (b :: rest)).status.value = some b.setStream := by
      simp only [Stream.popChunk]
      cases b.fin <;> rfl
    rw [hv]
    refine ⟨rfl, ?_, ?_, fun v h => ⟨b.setStream, by simp, ?_⟩, fun h => ?_, fun h x hx => ?_⟩
    · intro x hx
      obtain rfl : x = b.setStream := by simpa [Stream.popChunk] using hx
      rfl
    · simp [Stream.popChunk]
    · cases hf : b.fin
      · simp [Stream.popChunk, hf, ReadStatus.ofPair] at h
      · exact hf
    · cases hf : b.fin <;> simp [Stream.popChunk, hf, ReadStatus.ofPair] at h
    · exact h x (List.mem_cons_of_mem _ hx)

/-- A read changes the queue, the receive state and who waits; it pops `popped` and hands
out `out`. -/
structure ReadEffect (x y : StreamInner R ω) (popped : List StreamRecvBuffer) (out : Bytes)
    (calls : List StreamCall) : Prop where
  frame : ∃ recvState recvBuffers start read, y =
    { x with
      recvState := recvState
      recvBuffers := recvBuffers
      startWaiters := start
      readWaiters := read }
  rewound : x.recvBuffers.map StreamRecvBuffer.rewound =
    (popped ++ y.recvBuffers).map StreamRecvBuffer.rewound
  delivered : ∀ b ∈ popped, b.stream = true
  unread : unreadBytes x.recvBuffers = out ++ unreadBytes y.recvBuffers
  recvState : y.recvState = x.recvState ∨
    (x.recvState = .startComplete ∧ y.recvState = .shutdown ∧ ∃ b ∈ popped, b.fin = true)
  readWaiters : y.readWaiters = x.readWaiters ∨
    (y.recvState = .startComplete ∧ y.recvBuffers = [])
  wellFormed : (∀ b ∈ x.recvBuffers, b.WellFormed) → ∀ b ∈ y.recvBuffers, b.WellFormed
  calls : calls = []

theorem readEffect_none {x : StreamInner R ω} {start : List ω} :
    ReadEffect x { x with startWaiters := start } [] [] [] :=
  ⟨⟨_, _, _, _, rfl⟩, rfl, nofun, rfl, .inl rfl, .inl rfl, id, rfl⟩

/-- The value a poll is ready with. -/
def Poll.okValue {ε α : Type} : Poll (Except ε (Option α)) → Option α
  | .ready (.ok v) => v
  | _ => none

/-- The calls that read. -/
def StreamOp.IsRead : StreamOp ω → Prop
  | pollRead _ _ | pollReadBuf _ _ | pollReadChunk _ => True
  | _ => False

/-- A read that asks for at least one byte. -/
def StreamOp.IsNonEmptyRead : StreamOp ω → Prop
  | pollRead _ len => 0 < len
  | pollReadBuf _ remaining => 0 < remaining
  | pollReadChunk _ => True
  | _ => False

/-- The groups of calls that later arguments tell apart. -/
theorem StreamOp.group (op : StreamOp ω) :
    op.IsRead ∨ op.IsWrite ∨ op.IsHeld ∨
      (∃ cx failedOnBlock native, op = .pollStart cx failedOnBlock native) ∨
      (∃ cx errorCode native, op = .pollAbortRead cx errorCode native) ∨
      ∃ errorCode native, op = .abortRead errorCode native := by
  cases op <;> simp [IsRead, IsWrite, IsHeld]

section

variable [WillWake ω]

theorem Stream.readEffect_pollReadGeneric {α : Type} {x : StreamInner R ω} (cx : ω)
    {readFn : List StreamRecvBuffer → ReadFn α} (chunk : Option α → List StreamRecvBuffer)
    (out : Option α → Bytes) (hchunk : chunk none = []) (hout : out none = [])
    (h : ∀ q, Reads q (readFn q) ((readFn q).readCompleteBuffers ++ chunk (readFn q).status.value)
      (out (readFn q).status.value)) :
    ReadEffect x (pollReadGeneric x cx readFn).state
      ((pollReadGeneric x cx readFn).result.readCompleteBuffers ++
        chunk (pollReadGeneric x cx readFn).result.poll.okValue)
      (out (pollReadGeneric x cx readFn).result.poll.okValue)
      (pollReadGeneric x cx readFn).calls := by
  have hnone : ReadEffect x x ([] ++ chunk none) (out none) [] := by
    rw [hchunk, hout]
    exact readEffect_none
  unfold pollReadGeneric
  split
  · exact hnone
  · show ReadEffect x _ ([] ++ chunk none) (out none) []
    rw [hchunk, hout]
    exact readEffect_none
  next hs =>
    have hr := h x.recvBuffers
    simp only
    split
    · next hv =>
      rw [hv] at hr
      exact ⟨⟨_, _, _, _, rfl⟩, hr.rewound, hr.delivered, hr.unread, .inl rfl, .inl rfl,
        hr.wellFormed, rfl⟩
    · next hv =>
      rw [hv] at hr
      exact ⟨⟨_, _, _, _, rfl⟩, hr.rewound, hr.delivered, hr.unread, .inl rfl, .inl rfl,
        hr.wellFormed, rfl⟩
    · next hv =>
      have hfin := hr.finished _ hv
      rw [hv] at hr hfin
      exact ⟨⟨_, _, _, _, rfl⟩, hr.rewound, hr.delivered, hr.unread, .inr ⟨hs, rfl, hfin⟩, .inl rfl,
        hr.wellFormed, rfl⟩
    · next hv =>
      have hempty := hr.blocked hv
      rw [hv] at hr
      exact ⟨⟨_, _, _, _, rfl⟩, hr.rewound, hr.delivered, hr.unread, .inl rfl, .inr ⟨hs, hempty⟩,
        hr.wellFormed, rfl⟩
  · exact hnone
  · show ReadEffect x x ([] ++ chunk (Poll.okValue (.ready (readShutdownComplete x))))
      (out (Poll.okValue (.ready (readShutdownComplete x)))) []
    have hv :
        Poll.okValue (.ready (readShutdownComplete x : Except ReadError (Option α))) = none := by
      unfold readShutdownComplete
      split
      · rfl
      · split
        · rfl
        · split <;> rfl
    rw [hv]
    exact hnone

/-- The bytes a result hands to the application. -/
def handedBytes : StreamRes → Bytes
  | .read (.ready (.ok bytes)) => bytes
  | .readChunk (.ready (.ok (some b))) => b.unread
  | _ => []

theorem handedBytes_getD (p : ReadPoll (Option Bytes)) :
    handedBytes (.read (p.getD []).poll) = p.poll.okValue.getD [] := by
  rcases p with ⟨(v | v) | _, _⟩ <;> rfl

theorem handedBytes_chunk (p : Poll (Except ReadError (Option StreamRecvBuffer))) :
    handedBytes (.readChunk p) = unreadBytes p.okValue.toList ∧ handedChunk p = p.okValue.toList := by
  rcases p with (v | (_ | v)) | _ <;> simp [handedBytes, handedChunk, Poll.okValue]

theorem ReadLoop.gotBytes_spec {n : Nat} (s : ReadLoop n) (h : s.gotBytes = false) :
    s.copied = false ∨ s.read = [] := by
  right
  simpa [ReadLoop.gotBytes] using h

variable [RangeSet R] [StatusApi] {w : Nat} {s : StreamSys R ω}

/-- **What a read does**: the buffers it pops are held from now on. -/
theorem StreamSys.call_read {op : StreamOp ω} (h : op.IsRead) :
    ∃ popped, (s.call w op).state.held = s.held ++ popped ∧
      ReadEffect s.inner (s.call w op).state.inner popped (handedBytes (s.call w op).result)
        (s.call w op).calls := by
  cases op with
  | pollRead cx len =>
    have he := Stream.readEffect_pollReadGeneric (x := s.inner) cx (fun _ => [])
      (fun v => v.getD []) rfl rfl fun q => by
        rw [List.append_nil]
        exact reads_readLoop (n := len) ReadLoop.gotBytes ReadLoop.gotBytes_spec q
    exact ⟨_, List.append_assoc _ _ _, by rw [← handedBytes_getD] at he; exact he⟩
  | pollReadBuf cx remaining =>
    simp only [call, Stream.pollReadBuf]
    split
    · exact ⟨[], by simp, readEffect_none⟩
    · have he := Stream.readEffect_pollReadGeneric (x := s.inner) cx (fun _ => [])
        (fun v => v.getD []) rfl rfl fun q => by
          rw [List.append_nil]
          exact reads_readLoop (n := remaining) ReadLoop.copied (fun _ h => .inl h) q
      exact ⟨_, List.append_assoc _ _ _, by rw [← handedBytes_getD] at he; exact he⟩
  | pollReadChunk cx =>
    have he := Stream.readEffect_pollReadGeneric (x := s.inner) cx Option.toList
      (fun v => unreadBytes v.toList) rfl rfl reads_popChunk
    obtain ⟨hb, hc⟩ :=
      handedBytes_chunk (Stream.pollReadGeneric s.inner cx Stream.popChunk).result.poll
    rw [← hb, ← hc] at he
    exact ⟨_, List.append_assoc _ _ _, he⟩
  | _ => exact h.elim

end

end MsquicAsync
