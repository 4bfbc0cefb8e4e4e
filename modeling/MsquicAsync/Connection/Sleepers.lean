import MsquicAsync.Connection.EventQueue

/-!
# Nobody sleeps on what is already there

`Sleeps x k` says what the tasks in list `k` still wait for: while it holds, their
polls would be pending again. Whoever is registered in a list satisfies it, every
call keeps it, and an event that ends it drains the list.
-/

namespace MsquicAsync

open Runs Connection

variable {ω : Type}

/-- Between the handshake and ShutdownComplete. -/
def ConnectionState.Running (c : ConnectionState) : Prop := c = .connected ∨ c = .shutdown

/-- What keeps the tasks in a list asleep. -/
def ConnectionInnerExclusive.Sleeps (x : ConnectionInnerExclusive ω) : WaiterList → Prop
  | .start => x.state = .connecting
  | .shutdown => x.state.Running
  | .event => x.state.Running ∧ x.events = []
  | _ => True

theorem ConnectionState.next_connecting (op : ConnectionOp ω) :
    ConnectionState.connecting.next (.call op) = .connecting := by
  cases op <;> simp [next]

theorem ConnectionState.Running.next_call {c : ConnectionState} (h : c.Running)
    (op : ConnectionOp ω) : (c.next (.call op)).Running := by
  rcases h with rfl | rfl <;> cases op <;> simp [next, Running]

theorem ConnectionState.Running.next_event {c : ConnectionState} (h : c.Running)
    {ev : MsquicConnectionEvent}
    (hk : ¬ (ConnectionLabel.event ev : ConnectionLabel ω).IsShutdownComplete) :
    (c.next (.event ev : ConnectionLabel ω)).Running := by
  cases ev with
  | shutdownComplete => exact absurd trivial hk
  | connected => exact .inl rfl
  | shutdownInitiatedByTransport | shutdownInitiatedByPeer => exact .inr rfl
  | _ => exact h

theorem ConnectionLabel.IsShutdownComplete.mem_drains {ev : MsquicConnectionEvent}
    (h : (ConnectionLabel.event ev : ConnectionLabel ω).IsShutdownComplete) :
    WaiterList.shutdown ∈ ev.drains ∧ WaiterList.event ∈ ev.drains := by
  cases ev with
  | shutdownComplete => simp [MsquicConnectionEvent.drains]
  | _ => cases h

theorem ConnectionState.next_event_connecting {ev : MsquicConnectionEvent}
    (hk : WaiterList.start ∉ ev.drains) :
    ConnectionState.connecting.next (.event ev : ConnectionLabel ω) = .connecting := by
  cases ev with
  | connected | shutdownInitiatedByTransport | shutdownInitiatedByPeer | shutdownComplete =>
    simp [MsquicConnectionEvent.drains] at hk
  | _ => rfl

theorem MsquicConnectionEvent.event_mem_drains {ev : MsquicConnectionEvent}
    (h : ev.raises.isSome) : WaiterList.event ∈ ev.drains := by
  cases ev with
  | datagramStateChanged | localAddressesChanged | notifyRemoteAddressRemoved =>
    simp [drains]
  | notifyRemoteAddressAdded a n =>
    cases ha : a.asSocket <;> simp_all [raises, drains]
  | notifyObservedAddress a b | pathValidated a b | pathAdded b a | pathRemoved b a
  | pathStatusChanged b a =>
    cases ha : a.asSocket <;> cases hb : b.asSocket <;>
      simp_all [raises, raises.addrEvent, drains, drains.addrDrains]
  | _ => simp [raises] at h

section

variable {x : ConnectionInnerExclusive ω} {op : ConnectionOp ω} {w : ω}

theorem ConnectionInnerExclusive.awaitsConnected_start {cx : ω} {body : Option (WaiterList × ω)}
    (hb : body ≠ some (.start, w)) (h : x.awaitsConnected cx body = some (.start, w)) :
    x.state = .connecting := by
  unfold awaitsConnected at h
  split at h
  · assumption
  · exact absurd h hb
  · cases h

theorem ConnectionInnerExclusive.awaits_start (h : x.awaits op = some (.start, w)) :
    x.state.next (.call op) = .connecting := by
  cases op with
  | pollStart cx native =>
    unfold awaits at h
    cases hs : x.state <;> simp_all [ConnectionState.next]
  | pollAcceptInboundStream | pollAcceptInboundUniStream | pollReceiveDatagram =>
    exact awaitsConnected_start (by split <;> simp) h
  | pollSendDatagram | pollOpenOutboundStream => exact awaitsConnected_start (by simp) h
  | pollShutdown | pollEvent =>
    unfold awaits at h
    cases hs : x.state <;> simp_all [ConnectionState.next]
  | _ => cases h

theorem ConnectionInnerExclusive.awaitsConnected_ne {cx : ω} {k : WaiterList}
    {body : Option (WaiterList × ω)} (hk : k ≠ .start) (hb : body ≠ some (k, w)) :
    x.awaitsConnected cx body ≠ some (k, w) := by
  unfold awaitsConnected
  split
  · intro h
    cases h
    exact hk rfl
  · exact hb
  · simp

/-- In the shutdown and the event list only `poll_shutdown` and `poll_event` register, of a
connection that is running, and in the event list only when the queue is empty. -/
theorem ConnectionInnerExclusive.awaits_running {k : WaiterList} (hk : k = .shutdown ∨ k = .event)
    (h : x.awaits op = some (k, w)) : x.state.Running ∧ (k = .event → x.events = []) := by
  have hne : k ≠ .start := by
    rcases hk with rfl | rfl <;> exact fun h => by cases h
  cases op with
  | pollShutdown | pollEvent =>
    unfold awaits at h
    rcases hk with rfl | rfl <;> cases hs : x.state <;> simp_all [ConnectionState.Running]
  | pollStart =>
    unfold awaits at h
    cases hs : x.state <;> simp_all
  | pollAcceptInboundStream | pollAcceptInboundUniStream | pollReceiveDatagram =>
    refine absurd h (awaitsConnected_ne hne ?_)
    rcases hk with rfl | rfl <;> split <;> simp
  | pollSendDatagram | pollOpenOutboundStream =>
    exact absurd h (awaitsConnected_ne hne (by simp))
  | _ => cases h

end

section

variable [WillWake ω] {s : ConnectionSys ω} {k : WaiterList}

theorem ConnectionSys.call_events_nil (op : ConnectionOp ω) (h : s.inner.events = []) :
    (s.call op).state.inner.events = [] := by
  have hd := (s.call_delivers op).events
  rw [h] at hd
  exact (List.append_eq_nil_iff.mp hd.symm).2

theorem ConnectionSys.sleeps_call (op : ConnectionOp ω) (h : s.inner.Sleeps k) :
    (s.call op).state.inner.Sleeps k := by
  have hstate : (s.call op).state.inner.state = s.inner.state.next (.call op) :=
    s.step_state (.call op)
  cases k with
  | start =>
    show (s.call op).state.inner.state = _
    rw [hstate, show s.inner.state = .connecting from h]
    exact ConnectionState.next_connecting op
  | shutdown =>
    show (s.call op).state.inner.state.Running
    rw [hstate]
    exact ConnectionState.Running.next_call h op
  | event =>
    refine ⟨?_, s.call_events_nil op h.2⟩
    rw [hstate]
    exact ConnectionState.Running.next_call h.1 op
  | _ => trivial

theorem ConnectionSys.sleeps_event {ev : MsquicConnectionEvent} (hk : k ∉ ev.drains)
    (h : s.inner.Sleeps k) : (s.dispatchEvent ev).state.inner.Sleeps k := by
  have hstate : (s.dispatchEvent ev).state.inner.state =
      s.inner.state.next (.event ev : ConnectionLabel ω) :=
    s.step_state (.event ev)
  cases k with
  | start =>
    show (s.dispatchEvent ev).state.inner.state = _
    rw [hstate, show s.inner.state = .connecting from h]
    exact ConnectionState.next_event_connecting hk
  | shutdown =>
    show (s.dispatchEvent ev).state.inner.state.Running
    rw [hstate]
    exact ConnectionState.Running.next_event h fun hsc => hk hsc.mem_drains.1
  | event =>
    -- nothing is queued without waking the list, and only ShutdownComplete leaves Running
    have hraises : ev.raises = none := by
      cases hr : ev.raises with
      | none => rfl
      | some a => exact absurd (MsquicConnectionEvent.event_mem_drains (by simp [hr])) hk
    refine ⟨?_, ?_⟩
    · rw [hstate]
      exact ConnectionState.Running.next_event h.1 fun hsc => hk hsc.mem_drains.2
    · rw [(s.dispatchEvent_queues ev).events, hraises]
      exact h.2
  | _ => trivial

theorem ConnectionSys.sleeps_awaits {op : ConnectionOp ω} {w : ω}
    (h : s.inner.awaits op = some (k, w)) : (s.call op).state.inner.Sleeps k := by
  cases k with
  | start =>
    show (s.step (.call op)).state.inner.state = _
    rw [s.step_state]
    exact ConnectionInnerExclusive.awaits_start h
  | shutdown =>
    obtain ⟨hrun, -⟩ := ConnectionInnerExclusive.awaits_running (.inl rfl) h
    exact s.sleeps_call (k := .shutdown) op hrun
  | event =>
    obtain ⟨hrun, hnil⟩ := ConnectionInnerExclusive.awaits_running (.inr rfl) h
    exact s.sleeps_call (k := .event) op ⟨hrun, hnil rfl⟩
  | _ => trivial

/-- The waiter lists of a connection: nobody in them sleeps on what is there, and nobody is in
one twice. -/
structure Sleepers (x : ConnectionInnerExclusive ω) : Prop where
  sleeps : ∀ k, x.waiters k ≠ [] → x.Sleeps k
  distinct : ∀ k, Distinct (x.waiters k)

theorem Sleepers.call (h : Sleepers s.inner) (op : ConnectionOp ω) :
    Sleepers (s.call op).state.inner := by
  have hboard := (s.call_waits op).1
  cases ha : s.inner.awaits op with
  | none =>
    rw [ha] at hboard
    refine ⟨fun k hk => ?_, fun k => ?_⟩
    · rw [hboard] at hk
      exact s.sleeps_call op (h.sleeps k hk)
    · rw [hboard]
      exact h.distinct k
  | some p =>
    obtain ⟨k', w⟩ := p
    rw [ha] at hboard
    have hsame {k : WaiterList} (hne : k ≠ k') :
        (s.call op).state.inner.waiters k = s.inner.waiters k := by
      rw [hboard]
      exact Function.update_of_ne hne _ _
    have hnew : (s.call op).state.inner.waiters k' = registerWaker (s.inner.waiters k') w := by
      rw [hboard]
      exact Function.update_self _ _ _
    refine ⟨fun k hk => ?_, fun k => ?_⟩
    · by_cases hkk : k = k'
      · subst hkk
        exact s.sleeps_awaits ha
      · rw [hsame hkk] at hk
        exact s.sleeps_call op (h.sleeps k hk)
    · by_cases hkk : k = k'
      · subst hkk
        rw [hnew]
        exact distinct_registerWaker (h.distinct k) w
      · rw [hsame hkk]
        exact h.distinct k

theorem Sleepers.event (h : Sleepers s.inner) (ev : MsquicConnectionEvent) :
    Sleepers (s.dispatchEvent ev).state.inner := by
  have hboard := (s.dispatchEvent_drains ev).1.board
  refine ⟨fun k hk => ?_, fun k => ?_⟩
  · by_cases hd : k ∈ ev.drains
    · rw [hboard, if_pos hd] at hk
      exact absurd rfl hk
    · rw [hboard, if_neg hd] at hk
      exact s.sleeps_event hd (h.sleeps k hk)
  · rw [hboard]
    split
    · exact List.Pairwise.nil
    · exact h.distinct k

variable {tr : List (ConnectionStep ω)}
  {ok : List (ConnectionStep ω) → ConnectionSys ω → ConnectionLabel ω → Prop}

theorem run_sleepers (h : (connectionSystem ok).Run tr s) : Sleepers s.inner := by
  refine h.invariant_state (I := fun s => Sleepers s.inner) ?_ ?_
  · intro s hi
    have hempty : ∀ k, s.inner.waiters k = [] := by
      intro k
      cases hi <;> cases k <;> rfl
    refine ⟨fun k hk => absurd (hempty k) hk, fun k => ?_⟩
    rw [hempty k]
    exact List.Pairwise.nil
  · intro tr s l _ _ hinv
    cases l with
    | call op => exact hinv.call op
    | event ev => exact hinv.event ev

theorem Wakes.willWake (hw : WillWakeEquivalence ω) {w cx : ω} (h : Wakes w cx) :
    willWake w cx = true := by
  rcases h with rfl | h
  · exact hw.refl _
  · exact h

/-- **No lost wakeup on a connection**, whatever the order of events and calls. -/
theorem connection_no_lost_wakeup (hw : WillWakeEquivalence ω)
    (h : (connectionSystem ok).Run tr s) :
    (s.inner.startWaiters ≠ [] → s.inner.state = .connecting) ∧
    (s.inner.shutdownWaiters ≠ [] → ∀ cx errorCode,
      (pollShutdown s.inner cx errorCode).result = .returned .pending) ∧
    (s.inner.eventWaiters ≠ [] → s.inner.events = [] ∧
      ∀ cx, (pollEvent s.inner cx).result = .returned .pending) ∧
    (∀ cx, Owed tr cx → ∃ k, ∃ w ∈ s.inner.waiters k, willWake w cx = true) ∧
    ∀ k cx, (s.inner.waiters k).countP (willWake · cx) ≤ 1 := by
  have hinv := run_sleepers h
  refine ⟨hinv.sleeps .start, fun hne cx errorCode => ?_, fun hne => ?_, fun cx ho => ?_,
    fun k cx => (hinv.distinct k).countP_le_one hw cx⟩
  · rcases hinv.sleeps .shutdown hne with hs | hs <;> simp [Connection.pollShutdown, hs]
  · obtain ⟨hrun, hnil⟩ := hinv.sleeps .event hne
    refine ⟨hnil, fun cx => ?_⟩
    rcases hrun with hs | hs <;> simp [Connection.pollEvent, hs, hnil]
  · obtain ⟨k, w, hmem, hwakes⟩ := Owed.exists_waker h ho
    exact ⟨k, w, hmem, hwakes.willWake hw⟩

end

theorem willWakeEquivalence_nat : WillWakeEquivalence Nat := by
  refine ⟨fun a => by simp [willWake], fun h => ?_, fun h h' => ?_⟩
  · simp only [willWake, beq_iff_eq] at *
    exact h.symm
  · simp only [willWake, beq_iff_eq] at *
    exact h.trans h'

/-- Two tasks wait for the start; once connected, one of them waits for an event. -/
theorem connection_no_lost_wakeup_poll_event :
    ∃ (tr : List (ConnectionStep Nat)) (s : ConnectionSys Nat),
      (connectionSystem NothingFollowsShutdownComplete).Run tr s ∧ tr.map Step.label =
        [.call (.pollEvent 2), .event (.connected default), .call (.pollEvent 2),
          .call (.pollStart 1 (.ok ()))] ∧
      s.inner.startWaiters = [] ∧ s.inner.eventWaiters = [2] ∧ s.inner.events = [] := by
  have hr := System.Run.step (S := connectionSystem NothingFollowsShutdownComplete)
    (.call (.pollEvent 2))
    (.step (.event (.connected default))
      (.step (.call (.pollEvent 2))
        (.step (.call (.pollStart 1 (.ok ())))
          (.start (.new : ConnectionSys.Init (ω := Nat) _))
          (by simp [connectionSystem, NothingFollowsShutdownComplete, ConnectionLabel.IsEvent]))
        (by simp [connectionSystem, NothingFollowsShutdownComplete, ConnectionLabel.IsEvent]))
      (by simp [connectionSystem, NothingFollowsShutdownComplete,
        ConnectionLabel.IsShutdownComplete]))
    (by simp [connectionSystem, NothingFollowsShutdownComplete, ConnectionLabel.IsEvent])
  have hw := connection_no_lost_wakeup willWakeEquivalence_nat hr
  exact ⟨_, _, hr, rfl, rfl, rfl, (hw.2.2.1 (List.cons_ne_nil _ _)).1⟩

end MsquicAsync
