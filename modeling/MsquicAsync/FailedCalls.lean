import MsquicAsync.Endpoint
import MsquicAsync.Lib.Lockstep
import MsquicAsync.Listener.System
import MsquicAsync.Stream.Refused
import MsquicAsync.Connection.Twins

/-!
# A failed native call changes nothing

A connection and its streams after a call that MsQuic has refused are twins of
what they were before. Twins answer alike to whatever comes later, so every
later run has a run beside it in which the call was not made, and both give the
same results (`failed_call_changes_nothing`). A listener is exactly what it was.
-/

namespace MsquicAsync

open Runs Ranges Lending

variable {R ω : Type}

/-! ## Twins -/

structure EndpointTwins (s t : EndpointSys R ω) : Prop where
  conn : ConnectionTwins s.conn t.conn
  streams : List.Forall₂ StreamTwins s.streams t.streams

/-- The labels ask the same but for the addresses of boxes. -/
inductive EndpointAlike (s t : EndpointSys R ω) : EndpointLabel ω → EndpointLabel ω → Prop where
  | conn {l l' : ConnectionLabel ω} (h : ConnectionAlike s.conn t.conn l l') :
      EndpointAlike s t (.conn l) (.conn l')
  | stream (i : Nat) {l l' : StreamLabel ω}
      (h : ∀ x y, s.streams[i]? = some x → t.streams[i]? = some y → StreamAlike x y l l') :
      EndpointAlike s t (.stream i l) (.stream i l')
  | openStream (streamType : StreamType) :
      EndpointAlike s t (.openStream streamType) (.openStream streamType)
  | acceptStream (streamType : StreamType) :
      EndpointAlike s t (.acceptStream streamType) (.acceptStream streamType)

/-- What is shown, with the addresses of boxes left out. -/
def EndpointOut.bare : EndpointOut ω → EndpointOut ω
  | .conn out => .conn out.bare
  | .stream out => .stream out.bare
  | .none => .none

section

variable [RangeSet R] [WillWake ω] [StatusApi] {w : Nat} {s t : EndpointSys R ω}

omit [RangeSet R] [StatusApi] [WillWake ω] in
theorem streamTwins_new (x : StreamSys R ω) (hx : x.inner.writePool = []) : StreamTwins x x := by
  refine ⟨twins_self.mpr ?_, rfl, rfl⟩
  intro b hb
  rw [show Pooled.pool x.inner = [] from hx] at hb
  cases hb

theorem EndpointTwins.step (h : EndpointTwins s t) {l l' : EndpointLabel ω}
    (hl : EndpointAlike s t l l') :
    EndpointTwins (s.next w l).1 (t.next w l').1 ∧ (t.next w l').2.bare = (s.next w l).2.bare := by
  cases hl with
  | conn hl =>
    obtain ⟨hnext, hout⟩ := h.conn.step hl
    exact ⟨⟨hnext, h.streams⟩, congrArg EndpointOut.conn hout⟩
  | @stream i l l' hl =>
    unfold EndpointSys.next
    rcases forall₂_getElem? h.streams i with ⟨hx, hy⟩ | ⟨x, y, hx, hy, hxy⟩
    · simp only [hx, hy]
      exact ⟨h, trivial⟩
    · obtain ⟨hnext, hout⟩ := hxy.step (w := w) (hl x y hx hy)
      simp only [hx, hy]
      exact ⟨⟨h.conn, forall₂_set h.streams i hnext⟩, congrArg EndpointOut.stream hout⟩
  | openStream streamType =>
    exact ⟨⟨h.conn, List.rel_append h.streams (.cons (streamTwins_new _ rfl) .nil)⟩, rfl⟩
  | acceptStream streamType =>
    exact ⟨⟨h.conn, List.rel_append h.streams (.cons (streamTwins_new _ rfl) .nil)⟩, rfl⟩

variable {ok ok' : List (EndpointStep R ω) → EndpointSys R ω → EndpointLabel ω → Prop}

/-- Two endpoints that differ in their pools at most, whatever contracts they run under. -/
def endpointLockstep (w : Nat)
    (ok ok' : List (EndpointStep R ω) → EndpointSys R ω → EndpointLabel ω → Prop) :
    Lockstep (endpointSystem w ok) (endpointSystem w ok') where
  Twins := EndpointTwins
  Alike := EndpointAlike
  Same o o' := o'.bare = o.bare
  step _ _ _ _ h hl := h.step hl

/-! ## Every state is its own twin -/

omit [RangeSet R] [WillWake ω] [StatusApi] in
theorem endpointAlike_self (s : EndpointSys R ω) (l : EndpointLabel ω) : EndpointAlike s s l l := by
  cases l with
  | conn l => exact .conn (connectionAlike_self s.conn l)
  | stream i l =>
    refine .stream i fun x y hx hy => ?_
    obtain rfl := Option.some.inj (hx.symm.trans hy)
    exact streamAlike_self x l
  | openStream streamType => exact .openStream streamType
  | acceptStream streamType => exact .acceptStream streamType

theorem twins_run {tr : List (EndpointStep R ω)} (h : (endpointSystem w ok).Run tr s) :
    EndpointTwins s s := by
  refine h.invariant_state (I := fun s => EndpointTwins s s) ?_ fun _ s l _ _ hs =>
    (hs.step (endpointAlike_self s l)).1
  rintro ⟨conn, streams⟩ ⟨hc, rfl⟩
  refine ⟨⟨twins_self.mpr ?_, rfl⟩, .nil⟩
  cases hc <;> exact List.forall_mem_nil _

end

/-! ## Calls that MsQuic refuses -/

/-- The calls of a stream, and the start and the datagram sends of the connection. -/
def EndpointLabel.StartsOrSends : EndpointLabel ω → Prop
  | .conn (.call op) => op.StartsOrSends
  | .stream _ (.call _) => True
  | _ => False

/-- A native call of the step has failed with an error. -/
def EndpointOut.NativeFails (e : Status) : EndpointOut ω → Prop
  | .conn out => ∃ c ∈ out.calls, c.failed? = some e
  | .stream out => ∃ c ∈ out.calls, c.failed? = some e
  | .none => False

/-- The step answers with the error, wakes nobody, and has made no other native call. -/
def EndpointOut.FailsWith (e : Status) : EndpointOut ω → Prop
  | .conn out => out.result.FailsWith e ∧ out.woken = [] ∧ out.calls.length = 1
  | .stream out => out.result.FailsWith e ∧ out.woken = [] ∧ out.calls.length = 1
  | .none => False

/-- `t` is `s`, but the pool of the part that made the step may have one more empty box. -/
def EndpointSys.SameButPool (s : EndpointSys R ω) (l : EndpointLabel ω) (t : EndpointSys R ω) :
    Prop :=
  match l with
  | .conn _ => ∃ y, s.conn.SameButPool y ∧ t = { s with conn := y }
  | .stream i _ => ∃ x y, s.streams[i]? = some x ∧ x.SameButPool y ∧
      t = { s with streams := s.streams.set i y }
  | _ => False

theorem PoolGrows.empty {p q : List WriteBuffer} (h : PoolGrows p q) (hp : ∀ b ∈ p, b.Empty) :
    ∀ b ∈ q, b.Empty := by
  cases h with
  | same => exact hp
  | more hb => exact List.forall_mem_cons.mpr ⟨hb, hp⟩

theorem ConnectionSys.SameButPool.twins {s t : ConnectionSys ω} (h : s.SameButPool t)
    (hs : ConnectionTwins s s) : ConnectionTwins t s := by
  obtain ⟨p, hp, rfl⟩ := h
  exact ⟨⟨rfl, hp.empty hs.inner.left, hs.inner.left⟩, rfl⟩

theorem StreamSys.SameButPool.twins {s t : StreamSys R ω} (h : s.SameButPool t)
    (hs : StreamTwins s s) : StreamTwins t s := by
  obtain ⟨p, hp, rfl⟩ := h
  exact ⟨⟨rfl, hp.empty hs.inner.left, hs.inner.left⟩, rfl, rfl⟩

theorem EndpointSys.SameButPool.twins {s t : EndpointSys R ω} {l : EndpointLabel ω}
    (h : s.SameButPool l t) (hs : EndpointTwins s s) : EndpointTwins t s := by
  cases l with
  | conn l =>
    obtain ⟨y, hy, rfl⟩ := h
    exact ⟨hy.twins hs.conn, hs.streams⟩
  | stream i l =>
    obtain ⟨x, y, hx, hy, rfl⟩ := h
    obtain ⟨hlt, rfl⟩ := List.getElem?_eq_some_iff.mp hx
    have hself := List.forall₂_same.mp hs.streams _ (List.getElem_mem hlt)
    have hset := forall₂_set hs.streams i (hy.twins hself)
    rw [List.set_getElem_self hlt] at hset
    exact ⟨hs.conn, hset⟩
  | openStream | acceptStream => exact h.elim

section

variable [RangeSet R] [WillWake ω] [StatusApi] {w : Nat} {s t : EndpointSys R ω}

/-- **A call whose native call fails** answers with its error, and changes a pool at most. -/
theorem EndpointSys.next_refused (hs : EndpointTwins s s) {l : EndpointLabel ω}
    (hl : l.StartsOrSends) {e : Status} (hf : (s.next w l).2.NativeFails e) :
    (s.next w l).2.FailsWith e ∧ s.SameButPool l (s.next w l).1 := by
  cases l with
  | conn l =>
    cases l with
    | event ev => exact hl.elim
    | call op =>
      obtain ⟨c, hc, hfail⟩ := hf
      have hr := ConnectionSys.call_refused hs.conn.inner.left hl hc hfail
      exact ⟨⟨hr.result, hr.woken, congrArg List.length hr.calls⟩, _, hr.state, rfl⟩
  | stream i l =>
    cases l with
    | event ev => exact hl.elim
    | call op =>
      unfold EndpointSys.next at hf ⊢
      cases hx : s.streams[i]? with
      | none =>
        simp only [hx] at hf
        exact hf.elim
      | some x =>
        simp only [hx] at hf ⊢
        obtain ⟨c, hc, hfail⟩ := hf
        have hself := List.forall₂_same.mp hs.streams x (List.mem_of_getElem? hx)
        have hr := StreamSys.call_refused (w := w) (s := x) hself.inner.left hc hfail
        exact ⟨⟨hr.result, hr.woken, congrArg List.length hr.calls⟩, x, _, hx, hr.state, rfl⟩
  | openStream | acceptStream => exact hl.elim

/-! ## Later runs -/

omit [RangeSet R] [WillWake ω] [StatusApi] in
theorem EndpointSys.nodup_native {x : Boxes} (hn : s.ledger.all.Nodup) (hx : x ∈ s.parts) :
    (x.native.map WriteBuffer.ptr).Nodup := by
  have hmem : x.ledger ∈ s.parts.map Boxes.ledger := List.mem_map_of_mem hx
  exact (Ledger.nodup_lent hn).sublist (Ledger.lent_sublist_total hmem)

omit [RangeSet R] [WillWake ω] [StatusApi] in
/-- **What an endpoint is asked under the contract** its twin may be asked. -/
theorem EndpointTwins.follow (h : EndpointTwins s t) (hn : t.ledger.all.Nodup)
    {tr tr' : List (EndpointStep R ω)} {l : EndpointLabel ω} (hok : EndpointContract tr s l) :
    ∃ l', EndpointContract tr' t l' ∧ EndpointAlike s t l l' := by
  cases l with
  | conn l =>
    have hx : t.conn.boxes ∈ t.parts := List.mem_cons_self
    obtain ⟨l', ha, hfresh, hsends⟩ :=
      h.conn.follow (EndpointSys.nodup_native hn hx) hok.sends t.ledger.all
    exact ⟨.conn l', ⟨hfresh, hsends⟩, .conn ha⟩
  | stream i l =>
    obtain ⟨x, hx, hl⟩ := hok.sends
    rcases forall₂_getElem? h.streams i with ⟨hx', -⟩ | ⟨x', y, hx', hy, hxy⟩
    · rw [hx'] at hx
      cases hx
    · obtain rfl := Option.some.inj (hx.symm.trans hx')
      have hmem : y.boxes ∈ t.parts :=
        List.mem_cons_of_mem _ (List.mem_map_of_mem (List.mem_of_getElem? hy))
      obtain ⟨l', ha, hfresh, hsends⟩ :=
        hxy.follow (EndpointSys.nodup_native hn hmem) hl t.ledger.all
      refine ⟨.stream i l', ⟨hfresh, y, hy, hsends⟩, .stream i fun x' y' hx' hy' => ?_⟩
      obtain rfl := Option.some.inj (hx.symm.trans hx')
      obtain rfl := Option.some.inj (hy.symm.trans hy')
      exact ha
  | openStream streamType =>
    exact ⟨.openStream streamType, ⟨(fun a ha => by cases ha), trivial⟩, .openStream streamType⟩
  | acceptStream streamType =>
    exact ⟨.acceptStream streamType, ⟨(fun a ha => by cases ha), trivial⟩, .acceptStream streamType⟩

variable {ok : List (EndpointStep R ω) → EndpointSys R ω → EndpointLabel ω → Prop}

/-- A run that goes on after a step has one beside it that goes on without the step, if the step
left a twin. -/
theorem follow_without {tr new : List (EndpointStep R ω)} {l : EndpointLabel ω}
    {s' : EndpointSys R ω} (ht : EndpointTwins (s.next w l).1 s)
    (h : (endpointSystem w EndpointContract).Run
      (new ++ (endpointSystem w ok).take s l :: tr) s') :
    ∃ new' t', (endpointSystem w EndpointContract).Run (new' ++ tr) t' ∧ EndpointTwins s' t' ∧
      List.Forall₂ (endpointLockstep w EndpointContract EndpointContract).SameStep new new' := by
  have hs : (endpointSystem w EndpointContract).Run tr s :=
    (h.of_suffix (List.suffix_append new _)).1
  refine (endpointLockstep w EndpointContract EndpointContract).follow
    (e := (endpointSystem w ok).take s l) ?_ hs ht h
  intro tr s tr' t l ht htwins hok
  exact htwins.follow (writeBuffersExact_run ht).balanced.all_nodup hok

end

/-! ## Listeners -/

/-- The error of a native call that has failed. -/
def ListenerCall.failed? : ListenerCall → Option Status
  | start _ _ (.error e) | setTlsSecrets _ _ (.error e) | setConfiguration _ (.error e) => some e
  | _ => none

def ListenerLabel.IsStart : ListenerLabel ω → Prop
  | start _ _ _ | startOnPort _ _ _ => True
  | _ => False

theorem Listener.startWith_refused {x : ListenerInnerExclusive ω} {alpn : List Bytes}
    {localAddress : Option ListenAddr} {native : NativeResult} {c : ListenerCall} {e : Status}
    (hc : c ∈ (startWith x alpn localAddress native).calls) (hf : c.failed? = some e) :
    startWith x alpn localAddress native =
      { state := x, result := .error (.otherError e), calls := [c] } := by
  revert hc
  unfold startWith
  cases x.state with
  | opened | shutdownComplete =>
    cases native with
    | error e' =>
      intro hc
      obtain ⟨rfl, rfl⟩ := failed_eq ListenerCall.failed? rfl hc hf
      rfl
    | ok _ => exact fun hc => absurd hf (not_failed ListenerCall.failed? rfl hc)
  | startComplete | shutdown => exact fun hc => by cases hc

theorem ListenerSys.step_refused [WillWake ω] {x : ListenerSys ω} {l : ListenerLabel ω}
    (hl : l.IsStart) {c : ListenerCall} {e : Status} (hc : c ∈ (x.step l).calls)
    (hf : c.failed? = some e) :
    x.step l = { state := x, result := .start (.error (.otherError e)), calls := [c] } := by
  cases l with
  | start alpn localAddress native =>
    show x.afterStart (Listener.startWith x.inner alpn (localAddress.map .socket) native) = _
    rw [Listener.startWith_refused hc hf]
    rfl
  | startOnPort alpn localPort native =>
    show x.afterStart (Listener.startWith x.inner alpn (localPort.map .unspec) native) = _
    rw [Listener.startWith_refused hc hf]
    rfl
  | _ => exact hl.elim

/-! ## The whole crate -/

section

variable [RangeSet R] [WillWake ω] [StatusApi] {w : Nat} {s : EndpointSys R ω}
  {tr : List (EndpointStep R ω)}
  {ok : List (EndpointStep R ω) → EndpointSys R ω → EndpointLabel ω → Prop}

/-- A call has failed and has changed nothing: it answers with the error of its native call, a
pool may have one more empty box, and whatever comes later answers the same, but for the
addresses of boxes, as if the call had not been made. Every later run has one beside it in
which it was not. -/
structure ChangesNothing (w : Nat) (ok : List (EndpointStep R ω) → EndpointSys R ω →
    EndpointLabel ω → Prop) (tr : List (EndpointStep R ω)) (s : EndpointSys R ω)
    (l : EndpointLabel ω) (e : Status) : Prop where
  result : (s.next w l).2.FailsWith e
  state : s.SameButPool l (s.next w l).1
  later : ∀ ls ls', (endpointLockstep w ok ok).AllAlike (s.next w l).1 s ls ls' →
    List.Forall₂ (fun o o' => o'.bare = o.bare)
      ((endpointSystem w ok).outs (s.next w l).1 ls) ((endpointSystem w ok).outs s ls')
  without : ∀ new s', (endpointSystem w EndpointContract).Run
      (new ++ (endpointSystem w ok).take s l :: tr) s' →
    ∃ new' t', (endpointSystem w EndpointContract).Run (new' ++ tr) t' ∧ EndpointTwins s' t' ∧
      List.Forall₂ (endpointLockstep w EndpointContract EndpointContract).SameStep new new'

/-- **A failed native call changes nothing**, in every state of every run; a listener is exactly
as it was. -/
theorem failed_call_changes_nothing (h : (endpointSystem w ok).Run tr s) :
    (∀ l e, l.StartsOrSends → (s.next w l).2.NativeFails e → ChangesNothing w ok tr s l e) ∧
      ∀ (x : ListenerSys ω) l e, l.IsStart → (∃ c ∈ (x.step l).calls, c.failed? = some e) →
        (x.step l).state = x ∧ (x.step l).result = .start (.error (.otherError e)) ∧
          (x.step l).woken = [] := by
  have hs := twins_run h
  constructor
  · intro l e hl hf
    obtain ⟨hresult, hstate⟩ := EndpointSys.next_refused hs hl hf
    have ht := hstate.twins hs
    exact ⟨hresult, hstate, fun ls ls' hall => (endpointLockstep w ok ok).outs ht hall,
      fun new s' => follow_without ht⟩
  · rintro x l e hl ⟨c, hc, hf⟩
    rw [ListenerSys.step_refused hl hc hf]
    exact ⟨rfl, rfl, rfl⟩

end

/-- MsQuic refuses the first write of a stream: the new box is left in the pool. -/
theorem failed_call_changes_nothing_write :
    ∃ (tr : List (EndpointStep Coalesced Nat)) (s : EndpointSys Coalesced Nat)
      (l : EndpointLabel Nat), (endpointSystem 64 EndpointContract).Run tr s ∧
      l = .stream 0 (.call (.pollWrite 7 [1, 2] true {} 100 (.error 5))) ∧
      (s.next 64 l).1.streams.map (fun x => x.inner.writePool) = [[.new 100]] ∧
      ChangesNothing 64 EndpointContract tr s l 5 := by
  have h0 := System.Run.start
    (S := endpointSystem (R := Coalesced) (ω := Nat) 64 EndpointContract) (s := ⟨_, []⟩)
    ⟨.fromRaw none none, rfl⟩
  have h1 := h0.step (.acceptStream .bidirectional) (by exact ⟨(fun _ h => by cases h), trivial⟩)
  have hfails := (failed_call_changes_nothing h1).1
    (.stream 0 (.call (.pollWrite 7 [1, 2] true {} 100 (.error 5)))) 5 trivial
    ⟨_, List.mem_cons_self, rfl⟩
  exact ⟨_, _, _, h1, rfl, rfl, hfails⟩

end MsquicAsync
