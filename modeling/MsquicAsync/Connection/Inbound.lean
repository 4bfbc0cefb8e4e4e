import MsquicAsync.Lib.Fifo
import MsquicAsync.Connection.Waiters

/-!
# What the peer sends to a connection

A connection queues three kinds of arrivals for the application: bidirectional
streams, unidirectional streams and datagrams. Each is a first-in first-out
queue with a waiter list of its own: nothing is lost or handed out twice, a poll
of a connected connection answers with the oldest arrival that is left, and
whoever waits has nothing to take (`inbound_exact`).
-/

namespace MsquicAsync

open Runs Connection

variable {ω α : Type}

/-- The three queues together. -/
def ConnectionInnerExclusive.inbound (x : ConnectionInnerExclusive ω) :
    List Nat × List Nat × List Bytes :=
  (x.inboundStreams, x.inboundUniStreams, x.recvBuffers)

/-- A queue of arrivals, its waiters, and the calls and events that use it. -/
structure Inbound (ω α : Type) where
  part : List Nat × List Nat × List Bytes → List α
  list : WaiterList
  arrives : MsquicConnectionEvent → Option α
  poll : ω → ConnectionOp ω
  taken : ConnectionRes → Option α

def Inbound.queue (Q : Inbound ω α) (x : ConnectionInnerExclusive ω) : List α := Q.part x.inbound

/-- Bidirectional streams, by their native handles. -/
def Inbound.streams : Inbound ω Nat where
  part q := q.1
  list := .inboundStream
  arrives
    | .peerStreamStarted stream .bidirectional => some stream
    | _ => none
  poll := .pollAcceptInboundStream
  taken
    | .acceptInboundStream (.returned (.ready (.ok stream))) => some stream
    | _ => none

/-- Unidirectional streams, by their native handles. -/
def Inbound.uniStreams : Inbound ω Nat where
  part q := q.2.1
  list := .inboundUniStream
  arrives
    | .peerStreamStarted stream .unidirectional => some stream
    | _ => none
  poll := .pollAcceptInboundUniStream
  taken
    | .acceptInboundUniStream (.returned (.ready (.ok stream))) => some stream
    | _ => none

def Inbound.datagrams : Inbound ω Bytes where
  part q := q.2.2
  list := .recv
  arrives
    | .datagramReceived buffer => some buffer.bytes
    | _ => none
  poll := .pollReceiveDatagram
  taken
    | .receiveDatagram (.returned (.ready (.ok buf))) => some buf
    | _ => none

/-! ## One step -/

/-- A call from `x` to `y` takes what it answers with from the front, and only of a connected
connection. -/
structure Inbound.Takes (Q : Inbound ω α) (x : ConnectionInnerExclusive ω) (r : ConnectionRes)
    (y : ConnectionInnerExclusive ω) : Prop where
  queue : Q.queue x = (Q.taken r).toList ++ Q.queue y
  connected : Q.taken r ≠ none → x.state = .connected

/-- What the steps of a connection do to a queue. -/
structure Inbound.Lawful [WillWake ω] (Q : Inbound ω α) : Prop where
  init : ∀ s, ConnectionSys.Init s → Q.queue s.inner = []
  callback : ∀ r, Q.taken (.callback r) = none
  event : ∀ (s : ConnectionSys ω) ev,
    Q.queue (s.dispatchEvent ev).state.inner = Q.queue s.inner ++ (Q.arrives ev).toList
  drains : ∀ ev, Q.arrives ev ≠ none → Q.list ∈ ev.drains
  call : ∀ (s : ConnectionSys ω) op,
    Q.Takes s.inner (s.call op).result (s.call op).state.inner
  awaits : ∀ (x : ConnectionInnerExclusive ω) op cx,
    x.awaits op = some (Q.list, cx) → Q.queue x = []
  next : ∀ (s : ConnectionSys ω) cx, s.inner.state = .connected →
    Q.taken (s.call (Q.poll cx)).result = (Q.queue s.inner).head?

/-- No arrival is left of the kind that is waited for in the list. -/
def ConnectionInnerExclusive.NothingIn (x : ConnectionInnerExclusive ω) : WaiterList → Prop
  | .inboundStream => x.inboundStreams = []
  | .inboundUniStream => x.inboundUniStreams = []
  | .recv => x.recvBuffers = []
  | _ => True

/-- **Who starts to wait** has found nothing. -/
theorem ConnectionInnerExclusive.nothingIn_of_awaits {x : ConnectionInnerExclusive ω}
    {op : ConnectionOp ω} {k : WaiterList} {cx : ω} (h : x.awaits op = some (k, cx)) :
    x.NothingIn k := by
  have hgate {cx' : ω} {body : Option (WaiterList × ω)}
      (hb : body = some (k, cx) → x.NothingIn k)
      (h : x.awaitsConnected cx' body = some (k, cx)) : x.NothingIn k := by
    unfold awaitsConnected at h
    split at h
    · obtain ⟨rfl, -⟩ := Prod.mk.inj (Option.some.inj h)
      trivial
    · exact hb h
    · cases h
  have hpoll {k' : WaiterList} {cx' : ω} {q : Prop} [Decidable q]
      (h : (if q then some (k', cx') else none) = some (k, cx)) (hq : q → x.NothingIn k') :
      x.NothingIn k := by
    split at h
    · next h' =>
      obtain ⟨rfl, -⟩ := Prod.mk.inj (Option.some.inj h)
      exact hq h'
    · cases h
  have hreg (k' : WaiterList) {cx' : ω} (hq : x.NothingIn k') (h : some (k', cx') = some (k, cx)) :
      x.NothingIn k := by
    obtain ⟨rfl, -⟩ := Prod.mk.inj (Option.some.inj h)
    exact hq
  cases op with
  | pollStart cx native =>
    simp only [awaits] at h
    split at h
    · exact hpoll h fun _ => trivial
    · exact hreg .start trivial h
    · cases h
  | pollAcceptInboundStream | pollAcceptInboundUniStream | pollReceiveDatagram =>
    refine hgate (fun h => hpoll h fun hq => ?_) h
    exact hq
  | pollSendDatagram | pollOpenOutboundStream => exact hgate (fun h => by cases h) h
  | pollShutdown =>
    simp only [awaits] at h
    split at h
    · exact hreg .start trivial h
    · exact hreg .shutdown trivial h
    · exact hreg .shutdown trivial h
    · cases h
  | pollEvent =>
    simp only [awaits] at h
    split at h
    · exact hreg .start trivial h
    · exact hpoll h fun _ => trivial
    · exact hpoll h fun _ => trivial
    · cases h
  | sendDatagram | shutdown | setSslkeylogFile => cases h

/-- The calls that take from a queue of arrivals. -/
def ConnectionOp.TakesInbound : ConnectionOp ω → Prop
  | pollAcceptInboundStream _ | pollAcceptInboundUniStream _ | pollReceiveDatagram _ => True
  | _ => False

/-- The events that queue an arrival. -/
def MsquicConnectionEvent.BringsInbound : MsquicConnectionEvent → Prop
  | peerStreamStarted _ _ | datagramReceived _ => True
  | _ => False

section

variable [WillWake ω] (s : ConnectionSys ω)

theorem ConnectionSys.call_inbound {op : ConnectionOp ω} (h : ¬ op.TakesInbound) :
    (s.call op).state.inner.inbound = s.inner.inbound := by
  cases op with
  | pollAcceptInboundStream | pollAcceptInboundUniStream | pollReceiveDatagram =>
    exact absurd trivial h
  | pollStart cx native =>
    simp only [call, after_inner, Connection.pollStart]
    cases s.inner.state with
    | opened => cases native <;> rfl
    | _ => rfl
  | pollOpenOutboundStream =>
    exact whenConnected_state (P := fun y => y.inbound = _) (fun _ => rfl) rfl
  | pollSendDatagram cx buf fresh native =>
    refine whenConnected_state (P := fun y => y.inbound = _) (fun _ => rfl) ?_
    exact checkedSendDatagram_state (P := fun y => y.inbound = _) fun _ => rfl
  | sendDatagram buf fresh native =>
    simp only [call, after_inner, Connection.sendDatagram]
    cases s.inner.state with
    | connected => exact checkedSendDatagram_state (P := fun y => y.inbound = _) fun _ => rfl
    | _ => rfl
  | pollShutdown cx errorCode =>
    simp only [call, after_inner, Connection.pollShutdown]
    cases s.inner.state with
    | shutdownComplete => simp only; split <;> rfl
    | _ => rfl
  | shutdown errorCode =>
    simp only [call, after_inner, Connection.shutdown]
    cases s.inner.state <;> rfl
  | pollEvent cx =>
    simp only [call, after_inner, Connection.pollEvent]
    split
    · rfl
    · rfl
    · split <;> rfl
    · split <;> rfl
    · rfl
  | setSslkeylogFile file box native =>
    simp only [call, after_inner, Connection.setSslkeylogFile]
    split
    · rfl
    · split
      · cases native <;> rfl
      · rfl

omit [WillWake ω] in
theorem ConnectionSys.dispatchEvent_inbound {ev : MsquicConnectionEvent} (h : ¬ ev.BringsInbound) :
    (s.dispatchEvent ev).state.inner.inbound = s.inner.inbound := by
  cases ev with
  | peerStreamStarted | datagramReceived => exact absurd trivial h
  | datagramSendStateChanged clientContext state =>
    cases state
    case sent | canceled =>
      simp only [dispatchEvent]
      split <;> rfl
    all_goals rfl
  | notifyRemoteAddressAdded address sequenceNumber =>
    simp only [dispatchEvent, after_inner, Connection.handleEventNotifyRemoteAddressAdded]
    split <;> rfl
  | notifyObservedAddress | pathValidated | pathAdded | pathRemoved | pathStatusChanged =>
    exact pushAddrEvent_state (P := fun y => y.inbound = _) fun _ _ => rfl
  | connected secrets =>
    simp only [dispatchEvent, after_inner, Connection.handleEventConnected]
    cases s.inner.tlsSecrets <;> cases s.inner.sslkeylogFile <;> rfl
  | _ => rfl

end

namespace Inbound

theorem queue_eq {Q : Inbound ω α} {x y : ConnectionInnerExclusive ω} (h : y.inbound = x.inbound) :
    Q.queue y = Q.queue x :=
  congrArg Q.part h

theorem Takes.idle {Q : Inbound ω α} {x y : ConnectionInnerExclusive ω} {r : ConnectionRes}
    (hq : Q.queue y = Q.queue x) (hr : Q.taken r = none) : Q.Takes x r y := by
  refine ⟨?_, fun h => absurd hr h⟩
  rw [hr, hq]
  rfl

variable [WillWake ω]

theorem Takes.gate {Q : Inbound ω α} {x : ConnectionInnerExclusive ω} {cx : ω} {ε β : Type}
    {notStarted : ε} {wrap : ConnectionError → ε}
    {body : ConnectionRan ω (Outcome (Poll (Except ε β)))}
    {g : Outcome (Poll (Except ε β)) → ConnectionRes}
    (hready : ∀ e, Q.taken (g (.returned (.ready (.error e)))) = none)
    (hpend : Q.taken (g (.returned .pending)) = none)
    (hpanic : ∀ m, Q.taken (g (.panicked m)) = none)
    (hstart : Q.queue { x with startWaiters := registerWaker x.startWaiters cx } = Q.queue x)
    (hb : Q.queue x = (Q.taken (g body.result)).toList ++ Q.queue body.state) :
    Q.Takes x (g (whenConnected x cx notStarted wrap body).result)
      (whenConnected x cx notStarted wrap body).state := by
  have hlost : Q.taken (g (Connection.lost x wrap).result) = none := by
    unfold Connection.lost
    cases x.error with
    | none => exact hpanic _
    | some e => exact hready _
  unfold whenConnected
  split
  · exact .idle rfl (hready _)
  · exact .idle hstart hpend
  · next hs => exact ⟨hb, fun _ => hs⟩
  · exact .idle rfl hlost
  · exact .idle rfl hlost

theorem lawful_streams : (streams : Inbound ω Nat).Lawful where
  init s hs := by cases hs <;> rfl
  callback _ := rfl
  event s ev := by
    cases ev with
    | peerStreamStarted stream streamType =>
      cases streamType with
      | bidirectional => rfl
      | unidirectional => exact (List.append_nil _).symm
    | datagramReceived => exact (List.append_nil _).symm
    | _ =>
      refine Eq.trans ?_ (List.append_nil _).symm
      exact queue_eq (s.dispatchEvent_inbound id)
  drains ev h := by
    cases ev with
    | peerStreamStarted stream streamType =>
      cases streamType with
      | bidirectional => exact List.mem_singleton_self _
      | unidirectional => exact absurd rfl h
    | _ => exact absurd rfl h
  call s op := by
    cases op with
    | pollAcceptInboundStream cx =>
      refine .gate (fun _ => rfl) rfl (fun _ => rfl) rfl ?_
      cases hq : s.inner.inboundStreams with
      | nil => simp [streams, queue, ConnectionInnerExclusive.inbound, hq]
      | cons a rest => simp [streams, queue, ConnectionInnerExclusive.inbound, hq]
    | pollAcceptInboundUniStream | pollReceiveDatagram =>
      refine .idle (whenConnected_state (P := fun y => y.inboundStreams = _) (fun _ => rfl) ?_) rfl
      split <;> rfl
    | _ => exact .idle (queue_eq (s.call_inbound id)) rfl
  awaits _ _ _ h := ConnectionInnerExclusive.nothingIn_of_awaits h
  next s cx hs := by
    simp only [streams, queue, ConnectionInnerExclusive.inbound, ConnectionSys.call,
      ConnectionSys.after_result, pollAcceptInboundStream, whenConnected, hs]
    cases s.inner.inboundStreams <;> rfl

theorem lawful_uniStreams : (uniStreams : Inbound ω Nat).Lawful where
  init s hs := by cases hs <;> rfl
  callback _ := rfl
  event s ev := by
    cases ev with
    | peerStreamStarted stream streamType =>
      cases streamType with
      | bidirectional => exact (List.append_nil _).symm
      | unidirectional => rfl
    | datagramReceived => exact (List.append_nil _).symm
    | _ =>
      refine Eq.trans ?_ (List.append_nil _).symm
      exact queue_eq (s.dispatchEvent_inbound id)
  drains ev h := by
    cases ev with
    | peerStreamStarted stream streamType =>
      cases streamType with
      | bidirectional => exact absurd rfl h
      | unidirectional => exact List.mem_singleton_self _
    | _ => exact absurd rfl h
  call s op := by
    cases op with
    | pollAcceptInboundUniStream cx =>
      refine .gate (fun _ => rfl) rfl (fun _ => rfl) rfl ?_
      cases hq : s.inner.inboundUniStreams with
      | nil => simp [uniStreams, queue, ConnectionInnerExclusive.inbound, hq]
      | cons a rest => simp [uniStreams, queue, ConnectionInnerExclusive.inbound, hq]
    | pollAcceptInboundStream | pollReceiveDatagram =>
      refine .idle (whenConnected_state (P := fun y => y.inboundUniStreams = _) (fun _ => rfl) ?_) rfl
      split <;> rfl
    | _ => exact .idle (queue_eq (s.call_inbound id)) rfl
  awaits _ _ _ h := ConnectionInnerExclusive.nothingIn_of_awaits h
  next s cx hs := by
    simp only [uniStreams, queue, ConnectionInnerExclusive.inbound, ConnectionSys.call,
      ConnectionSys.after_result, pollAcceptInboundUniStream, whenConnected, hs]
    cases s.inner.inboundUniStreams <;> rfl

theorem lawful_datagrams : (datagrams : Inbound ω Bytes).Lawful where
  init s hs := by cases hs <;> rfl
  callback _ := rfl
  event s ev := by
    cases ev with
    | peerStreamStarted stream streamType =>
      cases streamType <;> exact (List.append_nil _).symm
    | datagramReceived => rfl
    | _ =>
      refine Eq.trans ?_ (List.append_nil _).symm
      exact queue_eq (s.dispatchEvent_inbound id)
  drains ev h := by
    cases ev with
    | datagramReceived => exact List.mem_singleton_self _
    | _ => exact absurd rfl h
  call s op := by
    cases op with
    | pollReceiveDatagram cx =>
      refine .gate (fun _ => rfl) rfl (fun _ => rfl) rfl ?_
      cases hq : s.inner.recvBuffers with
      | nil => simp [datagrams, queue, ConnectionInnerExclusive.inbound, hq]
      | cons a rest => simp [datagrams, queue, ConnectionInnerExclusive.inbound, hq]
    | pollAcceptInboundStream | pollAcceptInboundUniStream =>
      refine .idle (whenConnected_state (P := fun y => y.recvBuffers = _) (fun _ => rfl) ?_) rfl
      split <;> rfl
    | _ => exact .idle (queue_eq (s.call_inbound id)) rfl
  awaits _ _ _ h := ConnectionInnerExclusive.nothingIn_of_awaits h
  next s cx hs := by
    simp only [datagrams, queue, ConnectionInnerExclusive.inbound, ConnectionSys.call,
      ConnectionSys.after_result, pollReceiveDatagram, whenConnected, hs]
    cases s.inner.recvBuffers <;> rfl

/-! ## Runs -/

variable {ok : List (ConnectionStep ω) → ConnectionSys ω → ConnectionLabel ω → Prop}

variable (ok) in
/-- A lawful queue of arrivals is first in, first out. -/
def fifo {Q : Inbound ω α} (hQ : Q.Lawful) : Fifo (connectionSystem ok) α where
  queue s := Q.queue s.inner
  puts
    | .event ev => Q.arrives ev
    | .call _ => none
  takes out := Q.taken out.result
  Waited s := s.inner.waiters Q.list ≠ []
  init := hQ.init
  step s l := by
    cases l with
    | call op => exact (List.append_nil _).trans (hQ.call s op).queue
    | event ev =>
      obtain ⟨r, hr⟩ := (s.dispatchEvent_drains ev).2
      have hnone : Q.taken (s.dispatchEvent ev).result = none := by rw [hr, hQ.callback]
      show Q.queue s.inner ++ _ = (Q.taken (s.dispatchEvent ev).result).toList ++ _
      rw [hnone]
      exact (hQ.event s ev).symm
  waits s l hw hpost := by
    cases l with
    | call op =>
      have hq : Q.queue s.inner = [] := by
        by_contra hne
        refine hpost ?_
        have hb : (s.call op).state.inner.waiters Q.list =
            boardAfter s.inner.waiters (s.inner.awaits op) Q.list :=
          congrFun (s.call_waits op).1 _
        refine hb.trans ?_
        have hempty : s.inner.waiters Q.list = [] := by
          by_contra hwait
          exact hne (hw hwait)
        cases ha : s.inner.awaits op with
        | none => exact hempty
        | some p =>
          obtain ⟨k, cx⟩ := p
          have hk : Q.list ≠ k := by
            rintro rfl
            exact hne (hQ.awaits _ _ _ ha)
          exact (Function.update_of_ne hk _ _).trans hempty
      have hcall := (hQ.call s op).queue
      rw [hq] at hcall
      exact (List.append_eq_nil_iff.mp hcall.symm).2
    | event ev =>
      have hb := (s.dispatchEvent_drains ev).1.board Q.list
      have hnot : Q.list ∉ ev.drains := fun hmem => hpost (hb.trans (if_pos hmem))
      have harr : Q.arrives ev = none := by
        by_contra hne
        exact hnot (hQ.drains ev hne)
      have hq := hQ.event s ev
      rw [harr, Option.toList_none, List.append_nil] at hq
      refine hq.trans (hw fun hempty => hpost ?_)
      exact hb.trans ((if_neg hnot).trans hempty)

/-- What arrived, oldest first. -/
def arrived (Q : Inbound ω α) (tr : List (ConnectionStep ω)) : List α :=
  tr.reverse.flatMap fun e =>
    match e.label with
    | .event ev => (Q.arrives ev).toList
    | .call _ => []

/-- What the polls answered with, oldest first. -/
def handed (Q : Inbound ω α) (tr : List (ConnectionStep ω)) : List α :=
  tr.reverse.flatMap fun e => (Q.taken e.out.result).toList

/-- The arrivals are handed out in order, each exactly once, and only while the connection is
connected; a poll answers with the oldest that is left, and who waits has nothing to take. -/
structure Exact (Q : Inbound ω α) (tr : List (ConnectionStep ω)) (s : ConnectionSys ω) : Prop where
  queue : Q.arrived tr = Q.handed tr ++ Q.queue s.inner
  connected : ∀ e ∈ tr, Q.taken e.out.result ≠ none → e.pre.inner.state = .connected
  next : s.inner.state = .connected → ∀ cx,
    Q.taken (s.call (Q.poll cx)).result = (Q.arrived tr)[(Q.handed tr).length]?
  waiting : s.inner.waiters Q.list ≠ [] → Q.handed tr = Q.arrived tr

variable {tr : List (ConnectionStep ω)} {s : ConnectionSys ω}

theorem Lawful.exact {Q : Inbound ω α} (hQ : Q.Lawful) (h : (connectionSystem ok).Run tr s) :
    Q.Exact tr s := by
  have harr : (fifo ok hQ).arrived tr = Q.arrived tr := by
    refine List.flatMap_congr fun e _ => ?_
    cases hl : e.label <;> simp [fifo]
  have hwait := (fifo ok hQ).nobody_waits h
  have hhead := (fifo ok hQ).head?_queue h
  have hq := (fifo ok hQ).exact h
  rw [harr] at hwait hhead hq
  refine ⟨hq, fun e he hne => ?_, fun hs cx => (hQ.next s cx hs).trans hhead, hwait⟩
  obtain ⟨tr', -, -, heq⟩ := h.of_mem he
  rw [heq] at hne
  cases hl : e.label with
  | call op =>
    rw [hl] at hne
    exact (hQ.call e.pre op).connected hne
  | event ev =>
    rw [hl] at hne
    obtain ⟨r, hr⟩ := (e.pre.dispatchEvent_drains ev).2
    refine absurd ?_ hne
    show Q.taken (e.pre.dispatchEvent ev).result = none
    rw [hr, hQ.callback]

end Inbound

section

variable [WillWake ω] {ok : List (ConnectionStep ω) → ConnectionSys ω → ConnectionLabel ω → Prop}
  {tr : List (ConnectionStep ω)} {s : ConnectionSys ω}

/-- **The peer's streams and datagrams** reach the application in order, each exactly once,
whatever the order of calls and events. -/
theorem inbound_exact (h : (connectionSystem ok).Run tr s) :
    Inbound.streams.Exact tr s ∧ Inbound.uniStreams.Exact tr s ∧ Inbound.datagrams.Exact tr s :=
  ⟨Inbound.lawful_streams.exact h, Inbound.lawful_uniStreams.exact h,
    Inbound.lawful_datagrams.exact h⟩

end

/-- Two datagrams and a stream arrive before their polls. -/
theorem inbound_exact_three :
    ∃ (tr : List (ConnectionStep Nat)) (s : ConnectionSys Nat),
      (connectionSystem fun _ _ _ => True).Run tr s ∧ tr.map Step.label =
        [.call (.pollReceiveDatagram 1), .event (.datagramReceived (.ofSlice [3])),
          .event (.peerStreamStarted 8 .bidirectional),
          .event (.datagramReceived (.ofSlice [1, 2]))] ∧
      Inbound.datagrams.handed tr = [[1, 2]] ∧ s.inner.recvBuffers = [[3]] ∧
      Inbound.streams.Exact tr s ∧ Inbound.uniStreams.Exact tr s ∧
      Inbound.datagrams.Exact tr s := by
  have h0 := System.Run.start (S := connectionSystem (ω := Nat) fun _ _ _ => True)
    (.fromRaw none none)
  have h4 := (((h0.step (.event (.datagramReceived (.ofSlice [1, 2]))) trivial).step
    (.event (.peerStreamStarted 8 .bidirectional)) trivial).step
    (.event (.datagramReceived (.ofSlice [3]))) trivial).step
    (.call (.pollReceiveDatagram 1)) trivial
  exact ⟨_, _, h4, rfl, rfl, rfl, inbound_exact h4⟩

end MsquicAsync
