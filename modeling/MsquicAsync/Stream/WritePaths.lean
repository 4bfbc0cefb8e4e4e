import MsquicAsync.Lib.Lockstep
import MsquicAsync.Stream.Twins

/-!
# Copied and lent writes

`poll_write` copies its bytes into a box, `poll_write_chunk` and
`poll_write_chunks` lend theirs. Two streams that are asked to write the same
bytes by different paths answer alike and hand MsQuic the same bytes with the
same flags, and nothing that comes later tells them apart (`write_paths_agree`).
-/

namespace MsquicAsync

open Runs Ranges

variable {R ω : Type}

/-- A call without the buffers its bytes lie in and the box that holds them. -/
inductive WireCall where
  | send (payload : Bytes) (flags : SendFlags) (result : NativeResult)
  | other (c : StreamCall)

def StreamCall.wire : StreamCall → WireCall
  | send buffers flags _ result => .send (buffers.flatMap QuicBuffer.bytes) flags result
  | c => .other c

/-- The answers are equal, and so is what MsQuic is told. -/
structure SameOnWire (o o' : Out ω StreamCall StreamRes) : Prop where
  result : o'.result = o.result
  woken : o'.woken = o.woken
  calls : o'.calls.map StreamCall.wire = o.calls.map StreamCall.wire

/-- What a write asks for, whatever path it takes. -/
structure WriteRequest (ω : Type) where
  cx : ω
  input : Bytes
  fin : Bool
  extraFlags : SendFlags
  native : NativeResult

def StreamOp.request? : StreamOp ω → Option (WriteRequest ω)
  | pollWrite cx buf fin extraFlags _ native => some ⟨cx, buf, fin, extraFlags, native⟩
  | pollWriteChunk cx chunk fin extraFlags _ native => some ⟨cx, chunk, fin, extraFlags, native⟩
  | pollWriteChunks cx chunks fin extraFlags _ native =>
    some ⟨cx, chunks.flatten, fin, extraFlags, native⟩
  | _ => none

/-- Each piece of the write is shorter than `2 ^ 32`. -/
def StreamOp.Short (op : StreamOp ω) : Prop :=
  ∀ pieces, op.pieces? = some pieces → ∀ c ∈ pieces, c.length < 2 ^ 32

/-- The labels ask the same but for addresses and for the path of a write. -/
inductive PathAlike (s t : StreamSys R ω) : StreamLabel ω → StreamLabel ω → Prop where
  | alike {l l' : StreamLabel ω} (h : StreamAlike s t l l') : PathAlike s t l l'
  | write {op op' : StreamOp ω} (q : WriteRequest ω) (h : op.request? = some q)
      (h' : op'.request? = some q) (hs : op.Short) (hs' : op'.Short) :
      PathAlike s t (.call op) (.call op')

/-! ## On the wire -/

theorem StreamCall.wire_bare (c : StreamCall) : (NamesBox.bare c).wire = c.wire := by
  cases c <;> rfl

theorem sameOnWire_of_bare {o o' : Out ω StreamCall StreamRes} (h : o'.bare = o.bare) :
    SameOnWire o o' := by
  have hres : o'.bare.result = o.bare.result := congrArg Out.result h
  have hwoken : o'.bare.woken = o.bare.woken := congrArg Out.woken h
  refine ⟨hres, hwoken, ?_⟩
  have hcalls := congrArg (fun o => o.calls.map StreamCall.wire) h
  simpa only [Out.bare, List.map_map, Function.comp_def, StreamCall.wire_bare] using hcalls

def WireCall.taken : WireCall → Bool
  | send _ _ (.ok ()) => true
  | _ => false

theorem length_acceptedSends_wire (calls : List StreamCall) :
    (acceptedSends calls).length = ((calls.map StreamCall.wire).filter WireCall.taken).length := by
  induction calls with
  | nil => rfl
  | cons c calls ih =>
    simp only [acceptedSends, List.map_cons, List.filterMap_cons] at ih ⊢
    cases c with
    | send buffers flags context result =>
      cases result with
      | ok _ => exact congrArg (· + 1) ih
      | error e => exact ih
    | _ => exact ih

/-! ## Writes -/

/-- The calls leave twins behind, and show the same on the wire. -/
structure PathsAgree {ρ : Type} (r r' : StreamRan R ω ρ) : Prop where
  state : Twins r.state r'.state
  result : r'.result = r.result
  woken : r'.woken = r.woken
  calls : r'.calls.map StreamCall.wire = r.calls.map StreamCall.wire

section

variable {x y : StreamInner R ω} {f g : WriteBuffer → WriteBuffer × WriteStatus Nat}
  {input : Bytes} {fin : Bool}

/-- **Two ways to fill a box** with the same bytes make the same send. -/
theorem Stream.sendWrite_paths (h : Twins x y) (hf : Writes f input fin) (hg : Writes g input fin)
    (extraFlags : SendFlags) (fresh fresh' : Nat) (native : NativeResult) :
    PathsAgree (sendWrite x extraFlags f fresh native)
      (sendWrite y extraFlags g fresh' native) := by
  obtain ⟨q, rfl, hq⟩ := h.exists_eq
  have hl := WriteBuffer.empty_popPool_rest h.left fresh
  have hr := WriteBuffer.empty_popPool_rest hq fresh'
  have hpay := hf.payload _ (WriteBuffer.empty_popPool h.left fresh)
  have hpay' := hg.payload _ (WriteBuffer.empty_popPool hq fresh')
  have hback {p : List WriteBuffer} (hp : ∀ b ∈ p, b.Empty) (b : WriteBuffer) :
      ∀ c ∈ b.reset :: p, c.Empty :=
    List.forall_mem_cons.mpr ⟨WriteBuffer.empty_reset b, hp⟩
  have hbytes (flags : SendFlags) (a b : WriteBuffer) (res : NativeResult) :
      (StreamCall.send (g (WriteBuffer.popPool q fresh').1).1.getBuffers.2 flags a res).wire =
        (StreamCall.send (f (WriteBuffer.popPool x.writePool fresh).1).1.getBuffers.2 flags b
          res).wire := by
    simp only [StreamCall.wire]
    exact congrArg (fun payload => WireCall.send payload flags res) (hpay'.trans hpay.symm)
  unfold sendWrite
  simp only [Pooled.pool, Pooled.withPool, hf.status, hg.status, writeStatus] at hl hr ⊢
  -- the status says only whether FIN goes with the bytes
  cases fin with
  | false =>
    cases native with
    | ok _ => exact ⟨⟨rfl, hl, hr⟩, rfl, rfl, congrArg (fun c => [c]) (hbytes _ _ _ _)⟩
    | error e =>
      exact ⟨⟨rfl, hback hl _, hback hr _⟩, rfl, rfl, congrArg (fun c => [c]) (hbytes _ _ _ _)⟩
  | true =>
    cases native with
    | ok _ => exact ⟨⟨rfl, hl, hr⟩, rfl, rfl, congrArg (fun c => [c]) (hbytes _ _ _ _)⟩
    | error e =>
      exact ⟨⟨rfl, hback hl _, hback hr _⟩, rfl, rfl, congrArg (fun c => [c]) (hbytes _ _ _ _)⟩

theorem Stream.pollWriteGeneric_paths [WillWake ω] (h : Twins x y) (hf : Writes f input fin)
    (hg : Writes g input fin) (cx : ω) (extraFlags : SendFlags) (fresh fresh' : Nat)
    (native : NativeResult) :
    PathsAgree (pollWriteGeneric x cx extraFlags f fresh native)
      (pollWriteGeneric y cx extraFlags g fresh' native) := by
  have hsend := sendWrite_paths h hf hg extraFlags fresh fresh' native
  obtain ⟨q, rfl, hq⟩ := h.exists_eq
  unfold pollWriteGeneric
  simp only [Pooled.withPool] at hsend ⊢
  split
  · exact ⟨⟨rfl, h.left, hq⟩, rfl, rfl, rfl⟩
  · exact ⟨⟨rfl, h.left, hq⟩, rfl, rfl, rfl⟩
  · exact hsend
  · exact ⟨⟨rfl, h.left, hq⟩, rfl, rfl, rfl⟩
  · exact ⟨⟨rfl, h.left, hq⟩, rfl, rfl, rfl⟩

variable [RangeSet R] [WillWake ω] [StatusApi] {w : Nat}

/-- A write is its request, by a write function that puts the bytes into the box. -/
theorem StreamSys.call_request {s : StreamSys R ω} {op : StreamOp ω} {q : WriteRequest ω}
    (h : op.request? = some q) (hs : op.Short) :
    ∃ writeFn fresh, Writes writeFn q.input q.fin ∧
      s.call w op = s.after ((Stream.pollWriteGeneric s.inner q.cx q.extraFlags writeFn fresh
        q.native).lift id Stream.countWritten) .write := by
  cases op with
  | pollWrite cx buf fin extraFlags fresh native =>
    obtain rfl := Option.some.inj h
    have hw := (Stream.puts_putSliceFn buf fin).writes (hs _ rfl)
    rw [List.flatten_singleton] at hw
    exact ⟨_, fresh, hw, rfl⟩
  | pollWriteChunk cx chunk fin extraFlags fresh native =>
    obtain rfl := Option.some.inj h
    have hw := (Stream.puts_putChunkFn chunk fin).writes (hs _ rfl)
    rw [List.flatten_singleton] at hw
    exact ⟨_, fresh, hw, rfl⟩
  | pollWriteChunks cx chunks fin extraFlags fresh native =>
    obtain rfl := Option.some.inj h
    exact ⟨_, fresh, (Stream.puts_putChunksFn chunks fin).writes (hs _ rfl), rfl⟩
  | _ => cases h

theorem StreamTwins.step_paths {s t : StreamSys R ω} (h : StreamTwins s t)
    {l l' : StreamLabel ω} (hl : PathAlike s t l l') :
    StreamTwins (s.step w l).state (t.step w l').state ∧
      SameOnWire (s.step w l).toOut (t.step w l').toOut := by
  cases hl with
  | alike hl =>
    obtain ⟨hnext, hout⟩ := h.step (w := w) hl
    exact ⟨hnext, sameOnWire_of_bare hout⟩
  | write q ha ha' hs hs' =>
    obtain ⟨f, fresh, hf, hcall⟩ := StreamSys.call_request (w := w) (s := s) ha hs
    obtain ⟨g, fresh', hg, hcall'⟩ := StreamSys.call_request (w := w) (s := t) ha' hs'
    have hp := Stream.pollWriteGeneric_paths h.inner hf hg q.cx q.extraFlags fresh fresh' q.native
    simp only [StreamSys.step, hcall, hcall']
    refine ⟨⟨hp.state, h.held, ?_⟩, congrArg (fun r => StreamRes.write (Stream.countWritten r))
      hp.result, hp.woken, hp.calls⟩
    simp only [StreamSys.after_native, List.length_append, h.native]
    rw [length_acceptedSends_wire, length_acceptedSends_wire]
    exact congrArg (fun calls => s.native.length + (calls.filter WireCall.taken).length) hp.calls

end

section

variable [RangeSet R] [WillWake ω] [StatusApi] {w : Nat} {ok : StreamContract R ω}

/-- Two streams that write the same bytes, each by its own path. -/
def writePaths (w : Nat) (ok : StreamContract R ω) :
    Lockstep (streamSystem w ok) (streamSystem w ok) where
  Twins := StreamTwins
  Alike := PathAlike
  Same := SameOnWire
  step _ _ _ _ h hl := h.step_paths hl

/-- **The path of a write cannot be told**: whatever a stream is asked after any history, each
write by any of the three paths, the answers, the wakeups and what MsQuic is told are the
same. -/
theorem write_paths_agree {tr : List (StreamStep R ω)} {s : StreamSys R ω}
    (h : (streamSystem w ok).Run tr s) {ls ls' : List (StreamLabel ω)}
    (hall : (writePaths w ok).AllAlike s s ls ls') :
    List.Forall₂ SameOnWire ((streamSystem w ok).outs s ls) ((streamSystem w ok).outs s ls') :=
  (writePaths w ok).outs (StreamTwins.run h) hall

end

/-- A copied write and a vectored one of the same bytes, each completed, then a finish. -/
theorem write_paths_agree_three :
    ∃ s : StreamSys Coalesced Nat, (streamSystem 64 fun _ _ _ => True).Run [] s ∧
      List.Forall₂ SameOnWire
        ((streamSystem 64 fun _ _ _ => True).outs s
          [.call (.pollWrite 7 [1, 2, 3] false {} 100 (.ok ())), .event (.sendComplete false 100),
            .call (.pollFinishWrite 7 (.ok ()))])
        ((streamSystem 64 fun _ _ _ => True).outs s
          [.call (.pollWriteChunks 7 [[1], [2, 3]] false {} 200 (.ok ())),
            .event (.sendComplete false 200), .call (.pollFinishWrite 7 (.ok ()))]) := by
  have h := System.Run.start (S := streamSystem (R := Coalesced) (ω := Nat) 64 fun _ _ _ => True)
    (.fromRaw .bidirectional)
  refine ⟨_, h, write_paths_agree h (.cons ?_ (.cons ?_ (.cons ?_ .nil)))⟩
  · exact .write ⟨7, [1, 2, 3], false, {}, .ok ()⟩ rfl rfl
      (fun _ hp => Option.some.inj hp ▸ by decide) fun _ hp => Option.some.inj hp ▸ by decide
  · exact .alike (.sendComplete false rfl)
  · exact .alike (.same rfl rfl)

end MsquicAsync
