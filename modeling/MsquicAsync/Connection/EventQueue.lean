import MsquicAsync.Lib.Coalescing
import MsquicAsync.Connection.Waiters

/-!
# The event queue

`raises` is what an event of MsQuic queues for `poll_event`, `delivered` what a
call took out. The queue is a coalescing queue (`Coalescing.push`) whose kind is
the datagram state, so its invariant holds of every run, and the live datagram
state that the sends check is the last one raised.
-/

namespace MsquicAsync

open Runs Connection

variable {ω : Type}

def ConnectionEvent.isDatagramState : ConnectionEvent → Bool
  | datagramStateChanged _ _ => true
  | _ => false

/-- The datagram state the sends check, as the event that reports it. -/
def ConnectionInnerExclusive.live (x : ConnectionInnerExclusive ω) : ConnectionEvent :=
  .datagramStateChanged x.dgramSendEnabled x.dgramMaxSendLength

/-- What an event queues for `poll_event`. -/
def MsquicConnectionEvent.raises : MsquicConnectionEvent → Option ConnectionEvent
  | datagramStateChanged e m => some (.datagramStateChanged e m)
  | localAddressesChanged a r l => some (localAddressesChangedEvent a r l)
  | notifyObservedAddress a b => addrEvent a b .notifyObservedAddress
  | notifyRemoteAddressAdded a n => a.asSocket.map fun a => .notifyRemoteAddressAdded a n
  | pathValidated a b => addrEvent a b .pathValidated
  | notifyRemoteAddressRemoved n => some (.notifyRemoteAddressRemoved n)
  | pathAdded p l i => addrEvent l p fun l p => .pathAdded l p i
  | pathRemoved p l i => addrEvent l p fun l p => .pathRemoved l p i
  | pathStatusChanged p l i b => addrEvent l p fun l p => .pathStatusChanged l p i b
  | _ => none
where
  /-- An event about two addresses is queued only if both are socket addresses. -/
  addrEvent (a b : Addr) (event : SocketAddr → SocketAddr → ConnectionEvent) :
      Option ConnectionEvent :=
    match a.asSocket, b.asSocket with
    | some a, some b => some (event a b)
    | _, _ => none

def ConnectionLabel.raises : ConnectionLabel ω → Option ConnectionEvent
  | event ev => ev.raises
  | call _ => none

/-- The event a `poll_event` answered with. -/
def ConnectionRes.delivered : ConnectionRes → Option ConnectionEvent
  | event (.returned (.ready (.ok ev))) => some ev
  | _ => none

/-! ## One step -/

theorem coalesceDatagramState_eq (e : Bool) (m : UInt16) (q : List ConnectionEvent) :
    coalesceDatagramState e m q =
      Coalescing.push ConnectionEvent.isDatagramState (.datagramStateChanged e m) q := by
  show _ = if true = true then _ else _
  rw [if_pos rfl]
  induction q with
  | nil => rfl
  | cons ev q ih =>
    cases ev with
    | datagramStateChanged => rfl
    | _ => exact congrArg (List.cons _) ih

/-- From `x` to `y` the event `raised`, if any, was queued, and what the sends check is
the datagram state it reports, if it is one. -/
structure Queues (x : ConnectionInnerExclusive ω) (raised : Option ConnectionEvent)
    (y : ConnectionInnerExclusive ω) : Prop where
  events : y.events =
    raised.elim x.events fun ev => Coalescing.push ConnectionEvent.isDatagramState ev x.events
  live : y.live = (raised.filter ConnectionEvent.isDatagramState).getD x.live

section

variable {x : ConnectionInnerExclusive ω}

theorem queues_none {y : ConnectionInnerExclusive ω} (he : y.events = x.events)
    (hl : y.live = x.live) : Queues x none y :=
  ⟨he, hl⟩

theorem queues_pushEvent {ev : ConnectionEvent} (h : ev.isDatagramState = false) :
    Queues x (some ev) (pushEvent x ev).state where
  events := by simp [pushEvent, Coalescing.push, h]
  live := by
    rw [Option.filter_some_neg (by simp [h])]
    rfl

theorem queues_pushAddrEvent {a b : Addr} {event : SocketAddr → SocketAddr → ConnectionEvent}
    (h : ∀ a b, (event a b).isDatagramState = false) :
    Queues x (MsquicConnectionEvent.raises.addrEvent a b event)
      (pushAddrEvent x a b event).state := by
  unfold pushAddrEvent MsquicConnectionEvent.raises.addrEvent
  cases a.asSocket <;> cases b.asSocket
  case some.some => exact queues_pushEvent (h _ _)
  all_goals exact queues_none rfl rfl

end

namespace ConnectionSys

theorem dispatchEvent_queues (s : ConnectionSys ω) (ev : MsquicConnectionEvent) :
    Queues s.inner ev.raises (s.dispatchEvent ev).state.inner := by
  cases ev with
  | datagramStateChanged e m => exact ⟨coalesceDatagramState_eq e m _, rfl⟩
  | localAddressesChanged | notifyRemoteAddressRemoved => exact queues_pushEvent rfl
  | notifyRemoteAddressAdded address n =>
    simp only [dispatchEvent, after_inner, handleEventNotifyRemoteAddressAdded,
      MsquicConnectionEvent.raises]
    cases address.asSocket with
    | none => exact queues_none rfl rfl
    | some => exact queues_pushEvent rfl
  | notifyObservedAddress | pathValidated | pathAdded | pathRemoved | pathStatusChanged =>
    exact queues_pushAddrEvent fun _ _ => rfl
  | datagramSendStateChanged clientContext state =>
    simp only [dispatchEvent]
    cases state
    case sent | canceled =>
      cases WriteBuffer.fromRaw s.native clientContext <;> exact queues_none rfl rfl
    all_goals exact queues_none rfl rfl
  | peerStreamStarted stream streamType => cases streamType <;> exact queues_none rfl rfl
  | connected secrets =>
    simp only [dispatchEvent, after_inner, handleEventConnected]
    cases s.inner.tlsSecrets <;> cases s.inner.sslkeylogFile <;> exact queues_none rfl rfl
  | _ => exact queues_none rfl rfl

end ConnectionSys

/-- A call leaves the datagram state alone and takes out of the queue what it answers with. -/
structure Delivers (x : ConnectionInnerExclusive ω) (delivered : Option ConnectionEvent)
    (y : ConnectionInnerExclusive ω) : Prop where
  events : x.events = delivered.toList ++ y.events
  live : y.live = x.live

section

variable [WillWake ω] {x : ConnectionInnerExclusive ω}

theorem pollEvent_delivers (cx : ω) :
    Delivers x (ConnectionRes.event (pollEvent x cx).result).delivered (pollEvent x cx).state := by
  unfold pollEvent
  cases x.state with
  | opened | connecting => exact ⟨rfl, rfl⟩
  | connected | shutdown =>
    cases he : x.events with
    | nil => exact ⟨he, rfl⟩
    | cons ev rest => exact ⟨he, rfl⟩
  | shutdownComplete =>
    cases he : x.error <;> simp only [Connection.lost, expect, he] <;> exact ⟨rfl, rfl⟩

theorem ConnectionSys.call_delivers (s : ConnectionSys ω) (op : ConnectionOp ω) :
    Delivers s.inner (s.call op).result.delivered (s.call op).state.inner := by
  have hk := s.call_keeps op
  have hlive : (s.call op).state.inner.live = s.inner.live := by
    unfold ConnectionInnerExclusive.live
    rw [hk.dgramSendEnabled, hk.dgramMaxSendLength]
  cases op with
  | pollEvent cx => exact pollEvent_delivers cx
  | _ => exact ⟨(hk.events id).symm, hlive⟩

end

/-! ## Whole runs -/

/-- What a run raised, oldest first. -/
def raisedEvents : List (ConnectionStep ω) → List ConnectionEvent
  | [] => []
  | e :: tr => raisedEvents tr ++ e.label.raises.toList

/-- What a run's polls delivered, oldest first. -/
def deliveredEvents : List (ConnectionStep ω) → List ConnectionEvent
  | [] => []
  | e :: tr => deliveredEvents tr ++ e.out.result.delivered.toList

structure EventQueueInv (tr : List (ConnectionStep ω)) (s : ConnectionSys ω) : Prop where
  queue : Coalescing.Inv ConnectionEvent.isDatagramState (raisedEvents tr) (deliveredEvents tr)
    s.inner.events
  live : ∀ ev, ((raisedEvents tr).filter ConnectionEvent.isDatagramState).getLast? = some ev →
    ev = s.inner.live

section

variable [WillWake ω] {tr : List (ConnectionStep ω)} {s : ConnectionSys ω}
  {ok : List (ConnectionStep ω) → ConnectionSys ω → ConnectionLabel ω → Prop}

theorem EventQueueInv.call (h : EventQueueInv tr s) (op : ConnectionOp ω) :
    EventQueueInv ((connectionSystem ok).take s (.call op) :: tr) (s.step (.call op)).state := by
  have hd := s.call_delivers op
  have hraised : raisedEvents ((connectionSystem ok).take s (.call op) :: tr) = raisedEvents tr :=
    List.append_nil _
  have hdelivered : deliveredEvents ((connectionSystem ok).take s (.call op) :: tr) =
      deliveredEvents tr ++ (s.call op).result.delivered.toList := rfl
  refine ⟨?_, ?_⟩
  · rw [hraised, hdelivered]
    have hq := h.queue
    rw [hd.events] at hq
    cases hres : (s.call op).result.delivered with
    | none =>
      rw [hres] at hq
      rw [Option.toList_none, List.append_nil]
      exact hq
    | some ev =>
      rw [hres] at hq
      exact hq.pop
  · rw [hraised]
    intro ev hev
    exact (h.live ev hev).trans hd.live.symm

theorem EventQueueInv.event (h : EventQueueInv tr s) (ev : MsquicConnectionEvent) :
    EventQueueInv ((connectionSystem ok).take s (.event ev) :: tr) (s.step (.event ev)).state := by
  have hq := s.dispatchEvent_queues ev
  obtain ⟨r, hr⟩ := (s.dispatchEvent_drains ev).2
  have hdelivered :
      deliveredEvents ((connectionSystem ok).take s (.event ev) :: tr) = deliveredEvents tr := by
    show deliveredEvents tr ++ (s.dispatchEvent ev).result.delivered.toList = deliveredEvents tr
    rw [hr]
    exact List.append_nil _
  have hraised : raisedEvents ((connectionSystem ok).take s (.event ev) :: tr) =
      raisedEvents tr ++ ev.raises.toList := rfl
  refine ⟨?_, ?_⟩
  · rw [hdelivered, hraised, ConnectionSys.step, hq.events]
    cases ev.raises with
    | none =>
      rw [Option.toList_none, List.append_nil]
      exact h.queue
    | some a => exact h.queue.push a
  · intro a ha
    rw [ConnectionSys.step, hq.live]
    rw [hraised, List.filter_append] at ha
    cases hev : ev.raises with
    | none =>
      refine h.live a ?_
      simpa [hev] using ha
    | some b =>
      by_cases hb : b.isDatagramState = true
      · rw [Option.filter_some_pos hb, Option.getD_some]
        simpa [hev, hb, eq_comm] using ha
      · rw [Option.filter_some_neg (by simpa using hb)]
        exact h.live a (by simpa [hev, hb] using ha)

theorem run_eventQueueInv (h : (connectionSystem ok).Run tr s) : EventQueueInv tr s := by
  refine h.invariant (I := EventQueueInv) ?_ ?_
  · intro s hi
    cases hi <;> exact ⟨.nil, fun _ hev => by cases hev⟩
  · intro tr s l _ _ hinv
    cases l with
    | call op => exact hinv.call op
    | event ev => exact hinv.event ev

/-- **The queue and the live datagram state**: at most one datagram state is queued, and it is
the live one; with none queued, the last one delivered is; the other events come out exactly
once and in order; and what is queued comes out next. -/
theorem event_queue_sound (h : (connectionSystem ok).Run tr s) :
    (s.inner.events.filter (·.isDatagramState)).length ≤ 1 ∧
    (∀ e m, .datagramStateChanged e m ∈ s.inner.events →
      e = s.inner.dgramSendEnabled ∧ m = s.inner.dgramMaxSendLength) ∧
    (s.inner.events.filter (·.isDatagramState) = [] →
      (raisedEvents tr).filter (·.isDatagramState) ≠ [] →
      ((deliveredEvents tr).filter (·.isDatagramState)).getLast? =
        some (.datagramStateChanged s.inner.dgramSendEnabled s.inner.dgramMaxSendLength)) ∧
    (raisedEvents tr).filter (!·.isDatagramState) =
      (deliveredEvents tr).filter (!·.isDatagramState) ++ s.inner.events.filter (!·.isDatagramState) ∧
    s.inner.events.length + ((deliveredEvents tr).filter (!·.isDatagramState)).length ≤
      ((raisedEvents tr).filter (!·.isDatagramState)).length + 1 ∧
    (s.inner.state = .connected ∨ s.inner.state = .shutdown →
      ∀ ev rest, s.inner.events = ev :: rest → ∀ cx,
        (pollEvent s.inner cx).result = .returned (.ready (.ok ev)) ∧
        (pollEvent s.inner cx).state.events = rest) := by
  obtain ⟨hqueue, hlive⟩ := run_eventQueueInv h
  refine ⟨hqueue.queued, ?_, ?_, hqueue.others, hqueue.length_le, ?_⟩
  · intro e m hmem
    have heq := hlive _ (hqueue.eq_of_mem hmem rfl)
    simpa [ConnectionInnerExclusive.live] using heq
  · intro hnone hsome
    have hlast : ((raisedEvents tr).filter (·.isDatagramState)).getLast? =
        some (((raisedEvents tr).filter (·.isDatagramState)).getLast hsome) :=
      List.getLast?_eq_some_getLast hsome
    have heq := hlive _ hlast
    exact (hqueue.delivered_last hnone).trans (hlast.trans (congrArg some heq))
  · intro hs ev rest he cx
    rcases hs with hs | hs <;> simp [pollEvent, hs, he]

end

/-- Two datagram states meet behind an address event: the second overwrites the first, and
the address event is delivered first. -/
theorem event_queue_sound_overwrite :
    ∃ (tr : List (ConnectionStep Nat)) (s : ConnectionSys Nat),
      (connectionSystem NothingFollowsShutdownComplete).Run tr s ∧ tr.map Step.label =
        [.call (.pollEvent 1), .event (.datagramStateChanged false 0),
          .event (.datagramStateChanged true 1200), .event (.notifyRemoteAddressRemoved 7)] ∧
      deliveredEvents tr = [.notifyRemoteAddressRemoved 7] ∧
      s.inner.events = [.datagramStateChanged false 0] ∧
      (s.inner.events.filter (·.isDatagramState)).length ≤ 1 := by
  have hr := System.Run.step (S := connectionSystem NothingFollowsShutdownComplete)
    (.call (.pollEvent 1))
    (.step (.event (.datagramStateChanged false 0))
      (.step (.event (.datagramStateChanged true 1200))
        (.step (.event (.notifyRemoteAddressRemoved 7))
          (.start (.fromRaw none none : ConnectionSys.Init (ω := Nat) _))
          (by simp [connectionSystem, NothingFollowsShutdownComplete]))
        (by simp [connectionSystem, NothingFollowsShutdownComplete,
          ConnectionLabel.IsShutdownComplete]))
      (by simp [connectionSystem, NothingFollowsShutdownComplete,
        ConnectionLabel.IsShutdownComplete]))
    (by simp [connectionSystem, NothingFollowsShutdownComplete, ConnectionLabel.IsEvent])
  exact ⟨_, _, hr, rfl, rfl, rfl, (event_queue_sound hr).1⟩

end MsquicAsync
