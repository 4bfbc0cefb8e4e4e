import MsquicAsync.Connection.Steps

/-!
# The lifecycle of a connection

`ConnectionState.next` and `nextError` are the automaton of the state and the
recorded error alone: what a label does to them, whatever the rest of the
connection holds. `step_lifecycle` says the model follows it. The automaton only
moves backwards when a Connected event meets a connection that has already been
shut down.
-/

namespace MsquicAsync

open Runs Connection

variable {ω : Type}

/-- The state a label leads to. -/
def ConnectionState.next (c : ConnectionState) : ConnectionLabel ω → ConnectionState
  | .call (.pollStart _ native) => if c = .opened ∧ native.toBool then .connecting else c
  | .call (.pollShutdown _ _) => if c = .connected then .shutdown else c
  | .call (.shutdown _) => if c = .connected then .shutdown else c
  | .event (.connected _) => .connected
  | .event (.shutdownInitiatedByTransport _ _) => .shutdown
  | .event (.shutdownInitiatedByPeer _) => .shutdown
  | .event (.shutdownComplete _ _ _) => .shutdownComplete
  | _ => c

/-- The error a label leaves recorded. -/
def ConnectionState.nextError (c : ConnectionState) (error : Option ConnectionError) :
    ConnectionLabel ω → Option ConnectionError
  | .call (.pollShutdown _ _) => if c = .connected then some .shutdownByLocal else error
  | .call (.shutdown _) => if c = .connected then some .shutdownByLocal else error
  | .event (.shutdownInitiatedByTransport status errorCode) =>
    some (.shutdownByTransport status errorCode)
  | .event (.shutdownInitiatedByPeer errorCode) => some (.shutdownByPeer errorCode)
  | .event (.shutdownComplete _ _ _) => if error.isNone then some .shutdownByLocal else error
  | _ => error

def ConnectionInnerExclusive.lifecycle (x : ConnectionInnerExclusive ω) :
    ConnectionState × Option ConnectionError :=
  (x.state, x.error)

namespace ConnectionSys

theorem call_lifecycle [WillWake ω] (s : ConnectionSys ω) (op : ConnectionOp ω) :
    (s.call op).state.inner.lifecycle =
      (s.inner.state.next (.call op), s.inner.state.nextError s.inner.error (.call op)) := by
  cases op with
  | pollStart cx native =>
    simp only [call, after_inner, pollStart, ConnectionInnerExclusive.lifecycle]
    cases hs : s.inner.state with
    | opened =>
      cases native <;>
        simp [ConnectionState.next, ConnectionState.nextError, pendStart, hs, Except.toBool]
    | _ =>
      simp [ConnectionState.next, ConnectionState.nextError, pendStart, Connection.lost, hs]
  | pollAcceptInboundStream | pollAcceptInboundUniStream | pollReceiveDatagram =>
    refine whenConnected_state (P := fun y => y.lifecycle = _) (fun _ => rfl) ?_
    split <;> rfl
  | pollSendDatagram cx buf fresh native =>
    refine whenConnected_state (P := fun y => y.lifecycle = _) (fun _ => rfl) ?_
    exact checkedSendDatagram_state (P := fun y => y.lifecycle = _) fun _ => rfl
  | sendDatagram buf fresh native =>
    simp only [call, after_inner, Connection.sendDatagram]
    split
    · rfl
    · rfl
    · exact checkedSendDatagram_state (P := fun y => y.lifecycle = _) fun _ => rfl
    · rfl
    · rfl
  | pollShutdown cx errorCode =>
    simp only [call, after_inner, Connection.pollShutdown, ConnectionInnerExclusive.lifecycle]
    cases hs : s.inner.state with
    | shutdownComplete =>
      simp only
      split <;> simp [ConnectionState.next, ConnectionState.nextError, Connection.lost, hs]
    | _ => simp [ConnectionState.next, ConnectionState.nextError, pendStart, hs]
  | shutdown errorCode =>
    simp only [call, after_inner, Connection.shutdown, ConnectionInnerExclusive.lifecycle]
    cases hs : s.inner.state <;> simp [ConnectionState.next, ConnectionState.nextError, hs]
  | pollEvent cx =>
    simp only [call, after_inner, Connection.pollEvent]
    split
    · rfl
    · rfl
    · split <;> rfl
    · split <;> rfl
    · rfl
  | pollOpenOutboundStream cx =>
    exact whenConnected_state (P := fun y => y.lifecycle = _) (fun _ => rfl) rfl
  | setSslkeylogFile file box native =>
    simp only [call, after_inner, Connection.setSslkeylogFile]
    split
    · rfl
    · split
      · cases native <;> rfl
      · rfl

theorem dispatchEvent_lifecycle (s : ConnectionSys ω) (ev : MsquicConnectionEvent) :
    (s.dispatchEvent ev).state.inner.lifecycle =
      (s.inner.state.next (.event ev : ConnectionLabel ω),
        s.inner.state.nextError s.inner.error (.event ev : ConnectionLabel ω)) := by
  cases ev with
  | datagramSendStateChanged clientContext state =>
    cases state
    case sent =>
      simp only [dispatchEvent]
      split <;> rfl
    case canceled =>
      simp only [dispatchEvent]
      split <;> rfl
    all_goals rfl
  | peerStreamStarted stream streamType => cases streamType <;> rfl
  | notifyRemoteAddressAdded address sequenceNumber =>
    simp only [dispatchEvent, after_inner, Connection.handleEventNotifyRemoteAddressAdded]
    split <;> rfl
  | notifyObservedAddress | pathValidated | pathAdded | pathRemoved | pathStatusChanged =>
    exact pushAddrEvent_state (P := fun y => y.lifecycle = _) fun _ _ => rfl
  | connected secrets =>
    simp only [dispatchEvent, after_inner, Connection.handleEventConnected]
    cases s.inner.tlsSecrets <;> cases s.inner.sslkeylogFile <;> rfl
  | _ => rfl

/-- **The state and the error follow the automaton**, whatever the rest of the connection
holds. -/
theorem step_lifecycle [WillWake ω] (s : ConnectionSys ω) (l : ConnectionLabel ω) :
    (s.step l).state.inner.lifecycle =
      (s.inner.state.next l, s.inner.state.nextError s.inner.error l) := by
  cases l with
  | call op => exact s.call_lifecycle op
  | event ev => exact s.dispatchEvent_lifecycle ev

theorem step_state [WillWake ω] (s : ConnectionSys ω) (l : ConnectionLabel ω) :
    (s.step l).state.inner.state = s.inner.state.next l :=
  congrArg Prod.fst (s.step_lifecycle l)

theorem step_error [WillWake ω] (s : ConnectionSys ω) (l : ConnectionLabel ω) :
    (s.step l).state.inner.error = s.inner.state.nextError s.inner.error l :=
  congrArg Prod.snd (s.step_lifecycle l)

end ConnectionSys

theorem ConnectionState.nextError_ne_none {c : ConnectionState} {error : Option ConnectionError}
    (h : c = .shutdown ∨ c = .shutdownComplete → error ≠ none) (l : ConnectionLabel ω)
    (hl : c.next l = .shutdown ∨ c.next l = .shutdownComplete) : c.nextError error l ≠ none := by
  cases l with
  | call op =>
    cases op with
    | pollStart cx native =>
      simp only [next] at hl
      split at hl
      · rcases hl with hl | hl <;> cases hl
      · exact h hl
    | pollShutdown cx errorCode =>
      simp only [next, nextError] at hl ⊢
      split
      · exact Option.some_ne_none _
      next hc =>
        rw [if_neg hc] at hl
        exact h hl
    | shutdown errorCode =>
      simp only [next, nextError] at hl ⊢
      split
      · exact Option.some_ne_none _
      next hc =>
        rw [if_neg hc] at hl
        exact h hl
    | _ => exact h hl
  | event ev =>
    cases ev with
    | connected secrets => rcases hl with hl | hl <;> cases hl
    | shutdownInitiatedByTransport | shutdownInitiatedByPeer => exact Option.some_ne_none _
    | shutdownComplete => cases error <;> simp [nextError]
    | _ => exact h hl

/-! ## Monotonicity -/

/-- Connected is raised at most once and nothing follows ShutdownComplete. -/
def LifecycleContract (tr : List (ConnectionStep ω)) (s : ConnectionSys ω)
    (l : ConnectionLabel ω) : Prop :=
  NothingFollowsShutdownComplete tr s l ∧ (l.IsConnected → ∀ e ∈ tr, ¬ e.label.IsConnected)

theorem ConnectionState.next_eq_shutdownComplete {c : ConnectionState} {l : ConnectionLabel ω}
    (h : c.next l = .shutdownComplete) : c = .shutdownComplete ∨ l.IsShutdownComplete := by
  unfold ConnectionState.next at h
  split at h
  case h_7 => exact .inr trivial
  all_goals first
    | exact .inl h
    | cases h
    | (split at h
       · cases h
       · exact .inl h)

/-- Off ShutdownComplete, a label moves the state backwards only if it is a Connected event
that meets a connection already shut down. -/
theorem ConnectionState.rank_le_next {c : ConnectionState} {l : ConnectionLabel ω}
    (h : l.IsEvent → c ≠ .shutdownComplete) :
    c.rank ≤ (c.next l).rank ↔ (l.IsConnected → c ≠ .shutdown) := by
  cases l with
  | call op =>
    simp only [ConnectionLabel.IsConnected, false_implies, iff_true]
    cases op with
    | pollStart cx native => cases native <;> cases c <;> simp [next, rank, Except.toBool]
    | pollShutdown | shutdown => cases c <;> simp [next, rank]
    | _ => exact Nat.le_refl _
  | event ev =>
    have hc := h trivial
    cases ev with
    | connected | shutdownInitiatedByTransport | shutdownInitiatedByPeer | shutdownComplete =>
      cases c <;> simp_all [next, rank, ConnectionLabel.IsConnected]
    | _ => simp [next, ConnectionLabel.IsConnected]

section

variable [WillWake ω]
  {ok : List (ConnectionStep ω) → ConnectionSys ω → ConnectionLabel ω → Prop}
  {tr : List (ConnectionStep ω)} {s : ConnectionSys ω}

theorem exists_shutdownComplete (h : (connectionSystem ok).Run tr s)
    (hs : s.inner.state = .shutdownComplete) : ∃ e ∈ tr, e.label.IsShutdownComplete := by
  refine h.invariant (I := fun tr s => s.inner.state = .shutdownComplete →
    ∃ e ∈ tr, e.label.IsShutdownComplete) ?_ ?_ hs
  · rintro _ (_ | _) h0 <;> cases h0
  · intro tr s l _ _ ih hpost
    rw [connectionSystem, ConnectionSys.step_state] at hpost
    rcases ConnectionState.next_eq_shutdownComplete hpost with hc | hl
    · exact List.exists_mem_cons_of_exists (ih hc)
    · exact ⟨_, List.mem_cons_self, hl⟩

/-- **The lifecycle moves forward in a run exactly when no Connected event of the run is
handled while the connection is in Shutdown.** -/
theorem lifecycle_forward_iff (h : (connectionSystem LifecycleContract).Run tr s) :
    (∀ e ∈ tr, e.pre.inner.state.rank ≤ e.post.inner.state.rank) ↔
      ∀ e ∈ tr, e.label.IsConnected → e.pre.inner.state ≠ .shutdown := by
  refine forall₂_congr fun e he => ?_
  obtain ⟨tr', hr, hok, heq⟩ := h.of_mem he
  have hpost : e.post.inner.state = e.pre.inner.state.next e.label := by
    rw [heq]
    exact ConnectionSys.step_state _ _
  rw [hpost]
  refine ConnectionState.rank_le_next fun hev hc => ?_
  obtain ⟨e', he', hsc⟩ := exists_shutdownComplete hr hc
  exact hok.1 hev e' he' hsc

end

/-- An outbound connection that starts, is connected and is shut down moves forward. -/
theorem lifecycle_forward_outbound :
    ∃ (tr : List (ConnectionStep Nat)) (s : ConnectionSys Nat),
      (connectionSystem LifecycleContract).Run tr s ∧ tr.map Step.label =
        [.call (.shutdown 0), .event (.connected default), .call (.pollStart 1 (.ok ()))] ∧
      ∀ e ∈ tr, e.pre.inner.state.rank ≤ e.post.inner.state.rank := by
  have hr := System.Run.step (S := connectionSystem LifecycleContract) (.call (.shutdown 0))
    (.step (.event (.connected default))
      (.step (.call (.pollStart 1 (.ok ()))) (.start (.new : ConnectionSys.Init (ω := Nat) _))
        (by simp [connectionSystem, LifecycleContract, NothingFollowsShutdownComplete]))
      (by simp [connectionSystem, LifecycleContract, NothingFollowsShutdownComplete,
        ConnectionLabel.IsShutdownComplete, ConnectionLabel.IsConnected]))
    (by simp [connectionSystem, LifecycleContract, NothingFollowsShutdownComplete,
      ConnectionLabel.IsEvent, ConnectionLabel.IsConnected])
  refine ⟨_, _, hr, rfl, (lifecycle_forward_iff hr).mpr ?_⟩
  simp only [List.forall_mem_cons, System.take_label, System.take_pre]
  refine ⟨by simp [ConnectionLabel.IsConnected], ?_, by simp [ConnectionLabel.IsConnected], by simp⟩
  intro _ hc
  cases hc

/-- An accepted connection that the application shuts down before its Connected event goes
back from Shutdown to Connected. -/
theorem lifecycle_backwards :
    ∃ (tr : List (ConnectionStep Nat)) (s : ConnectionSys Nat),
      (connectionSystem LifecycleContract).Run tr s ∧
      tr.map Step.label = [.event (.connected default), .call (.shutdown 0)] ∧
      (∃ e ∈ tr, e.post.inner.state.rank < e.pre.inner.state.rank) ∧
      s.inner.state = .connected := by
  have hr := System.Run.step (S := connectionSystem LifecycleContract)
    (.event (.connected default))
    (.step (.call (.shutdown 0)) (.start (.fromRaw none none : ConnectionSys.Init (ω := Nat) _))
      (by simp [connectionSystem, LifecycleContract, NothingFollowsShutdownComplete]))
    (by simp [connectionSystem, LifecycleContract, NothingFollowsShutdownComplete,
      ConnectionLabel.IsShutdownComplete, ConnectionLabel.IsConnected])
  exact ⟨_, _, hr, rfl, ⟨_, List.mem_cons_self, by decide⟩, rfl⟩

end MsquicAsync
