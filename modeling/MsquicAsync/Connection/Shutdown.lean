import MsquicAsync.Connection.Waiters

/-!
# Who is left asleep by a shutdown

Two exact conditions on whole runs. When ShutdownComplete has been handled every
waiter list is empty, and every task that was pending has been woken, exactly
when no inbound uni stream waiter was there before it: that list is drained by
no shutdown handler. In the Shutdown state nobody is left in the inbound stream
and receive lists exactly when every local shutdown of a connected connection
finds them empty: the two application calls drain nothing.
-/

namespace MsquicAsync

open Runs Connection

variable {ω : Type}

namespace ConnectionInnerExclusive

variable {x : ConnectionInnerExclusive ω}

theorem awaits_shutdownComplete (h : x.state = .shutdownComplete) (op : ConnectionOp ω) :
    x.awaits op = none := by
  cases op <;> simp [awaits, awaitsConnected, h]

theorem awaits_shutdown (h : x.state = .shutdown) {op : ConnectionOp ω} {k : WaiterList} {w : ω}
    (ha : x.awaits op = some (k, w)) : k = .shutdown ∨ k = .event := by
  cases op with
  | pollShutdown cx errorCode =>
    simp only [awaits, h, Option.some.injEq, Prod.mk.injEq] at ha
    exact .inl ha.1.symm
  | pollEvent cx =>
    simp only [awaits, h] at ha
    split at ha
    · simp only [Option.some.injEq, Prod.mk.injEq] at ha
      exact .inr ha.1.symm
    · cases ha
  | _ => simp [awaits, awaitsConnected, h] at ha

end ConnectionInnerExclusive

/-! ## After ShutdownComplete -/

/-- What is left once ShutdownComplete has met the connection `x`. -/
structure AfterShutdownComplete (x : ConnectionInnerExclusive ω) (s : ConnectionSys ω) : Prop where
  state : s.inner.state = .shutdownComplete
  board : ∀ k, s.inner.waiters k = if k = .inboundUniStream then x.inboundUniStreamWaiters else []

section

variable [WillWake ω] {s : ConnectionSys ω} {x : ConnectionInnerExclusive ω}

theorem AfterShutdownComplete.call_waiters (h : AfterShutdownComplete x s) (op : ConnectionOp ω) :
    (s.call op).state.inner.waiters = s.inner.waiters := by
  rw [(s.call_waits op).1, ConnectionInnerExclusive.awaits_shutdownComplete h.state op]
  rfl

theorem AfterShutdownComplete.call (h : AfterShutdownComplete x s) (op : ConnectionOp ω) :
    AfterShutdownComplete x (s.step (.call op)).state where
  state := by
    rw [s.step_state, h.state]
    cases op <;> rfl
  board := by
    rw [ConnectionSys.step, h.call_waiters op]
    exact h.board

theorem afterShutdownComplete_event {l : ConnectionLabel ω} (h : l.IsShutdownComplete) :
    AfterShutdownComplete s.inner (s.step l).state := by
  cases l with
  | call op => cases h
  | event ev =>
    cases ev with
    | shutdownComplete _ _ _ => exact ⟨rfl, fun k => by cases k <;> rfl⟩
    | _ => cases h

variable {tr : List (ConnectionStep ω)} {e : ConnectionStep ω}

theorem run_afterShutdownComplete
    (h : (connectionSystem NothingFollowsShutdownComplete).Run tr s)
    (he : e ∈ tr) (hsc : e.label.IsShutdownComplete) : AfterShutdownComplete e.pre.inner s := by
  induction h with
  | start => cases he
  | @step tr s l hr hok ih =>
    rcases List.mem_cons.mp he with rfl | htl
    · exact afterShutdownComplete_event hsc
    · cases l with
      | call op => exact (ih htl).call op
      | event ev => exact absurd hsc (hok trivial e htl)

/-- **Every pending task is woken by ShutdownComplete, exactly when** no inbound uni stream
waiter is there to meet it. -/
theorem shutdown_complete_wakes_iff
    (h : (connectionSystem NothingFollowsShutdownComplete).Run tr s)
    (he : e ∈ tr) (hsc : e.label.IsShutdownComplete) :
    ((∀ k, s.inner.waiters k = []) ∧ (∀ cx, ¬ Owed tr cx) ∧
        ∀ op k, (s.call op).state.inner.waiters k = s.inner.waiters k) ↔
      e.pre.inner.inboundUniStreamWaiters = [] := by
  have hafter := run_afterShutdownComplete h he hsc
  constructor
  · rintro ⟨hempty, -, -⟩
    simpa [hafter.board] using hempty .inboundUniStream
  · intro huni
    have hempty : ∀ k, s.inner.waiters k = [] := fun k => by simp [hafter.board, huni]
    refine ⟨hempty, fun cx ho => ?_, fun op k => by rw [hafter.call_waiters]⟩
    obtain ⟨k, w, hw, -⟩ := Owed.exists_waker h ho
    simp [hempty k] at hw

end

/-- A pending `poll_event` and a pending accept are both woken. -/
theorem shutdown_complete_wakes_accept :
    ∃ (tr : List (ConnectionStep Nat)) (s : ConnectionSys Nat),
      (connectionSystem NothingFollowsShutdownComplete).Run tr s ∧ tr.map Step.label =
        [.event (.shutdownComplete true true false), .call (.pollEvent 2),
          .call (.pollAcceptInboundStream 1)] ∧
      (∀ k, s.inner.waiters k = []) ∧ ∀ cx, ¬ Owed tr cx := by
  have hr := System.Run.step (S := connectionSystem NothingFollowsShutdownComplete)
    (.event (.shutdownComplete true true false))
    (.step (.call (.pollEvent 2))
      (.step (.call (.pollAcceptInboundStream 1))
        (.start (.fromRaw none none : ConnectionSys.Init (ω := Nat) _)) nofun) nofun)
    (by simp [connectionSystem, NothingFollowsShutdownComplete, ConnectionLabel.IsShutdownComplete])
  have hw := (shutdown_complete_wakes_iff hr List.mem_cons_self trivial).mpr rfl
  exact ⟨_, _, hr, rfl, hw.1, hw.2.1⟩

/-- A task pending in `poll_accept_inbound_uni_stream` sleeps on past ShutdownComplete. -/
theorem shutdown_complete_leaves_uni_accept :
    ∃ (tr : List (ConnectionStep Nat)) (s : ConnectionSys Nat),
      (connectionSystem NothingFollowsShutdownComplete).Run tr s ∧ tr.map Step.label =
        [.event (.shutdownComplete true true false), .call (.pollAcceptInboundUniStream 1)] ∧
      s.inner.inboundUniStreamWaiters = [1] ∧ Owed tr 1 := by
  have hr := System.Run.step (S := connectionSystem NothingFollowsShutdownComplete)
    (.event (.shutdownComplete true true false))
    (.step (.call (.pollAcceptInboundUniStream 1))
      (.start (.fromRaw none none : ConnectionSys.Init (ω := Nat) _)) nofun)
    (by simp [connectionSystem, NothingFollowsShutdownComplete, ConnectionLabel.IsShutdownComplete])
  exact ⟨_, _, hr, rfl, rfl, .inr ⟨.inl ⟨rfl, rfl⟩, fun _ h => by cases h⟩⟩

/-! ## In the Shutdown state -/

/-- The two application calls that shut a connection down. -/
def ConnectionLabel.IsLocalShutdown : ConnectionLabel ω → Prop
  | .call (.shutdown _) | .call (.pollShutdown _ _) => True
  | _ => False

/-- Nobody waits in the inbound stream and receive lists. -/
def ConnectionInnerExclusive.NobodyReceives (x : ConnectionInnerExclusive ω) : Prop :=
  x.inboundStreamWaiters = [] ∧ x.recvWaiters = []

/-- In the Shutdown state nobody waits for what can no longer come. -/
def ConnectionSys.ReceiversWoken (s : ConnectionSys ω) : Prop :=
  s.inner.state = .shutdown → s.inner.NobodyReceives

section

variable [WillWake ω] {s : ConnectionSys ω}

theorem ConnectionSys.nobodyReceives_call {op : ConnectionOp ω}
    (h : ∀ {k w}, s.inner.awaits op = some (k, w) → k = .shutdown ∨ k = .event) :
    (s.call op).state.inner.NobodyReceives ↔ s.inner.NobodyReceives := by
  have hboard := (s.call_waits op).1
  have hsame : ∀ k, k ≠ .shutdown → k ≠ .event →
      (s.call op).state.inner.waiters k = s.inner.waiters k := by
    intro k hk hk'
    rw [hboard]
    cases ha : s.inner.awaits op with
    | none => rfl
    | some p =>
      have hp := h ha
      exact Function.update_of_ne (by rintro rfl; exact hp.elim hk hk') _ _
  have h1 : (s.call op).state.inner.inboundStreamWaiters = s.inner.inboundStreamWaiters :=
    hsame .inboundStream nofun nofun
  have h2 : (s.call op).state.inner.recvWaiters = s.inner.recvWaiters := hsame .recv nofun nofun
  rw [ConnectionInnerExclusive.NobodyReceives, h1, h2]
  rfl

/-- An event that leads to Shutdown drains the two lists, or the connection was already
shut down. -/
theorem ConnectionSys.ReceiversWoken.event (h : s.ReceiversWoken) (ev : MsquicConnectionEvent) :
    (s.step (.event ev)).state.ReceiversWoken := by
  intro hs
  have hd := (s.dispatchEvent_drains ev).1
  rw [s.step_state] at hs
  have hsame (hpre : s.inner.state = .shutdown) :
      (s.dispatchEvent ev).state.inner.NobodyReceives := by
    have h1 : s.inner.waiters .inboundStream = [] := (h hpre).1
    have h2 : s.inner.waiters .recv = [] := (h hpre).2
    exact ⟨(hd.board .inboundStream).trans (by simp [h1]), (hd.board .recv).trans (by simp [h2])⟩
  cases ev with
  | connected | shutdownComplete => cases hs
  | shutdownInitiatedByTransport | shutdownInitiatedByPeer => exact ⟨rfl, rfl⟩
  | _ => exact hsame hs

/-- **One step**: from a state where the receivers are woken it leads to one exactly when it
is not a local shutdown of a connected connection with receivers waiting. -/
theorem ConnectionSys.ReceiversWoken.step_iff (h : s.ReceiversWoken) (l : ConnectionLabel ω) :
    (s.step l).state.ReceiversWoken ↔
      (l.IsLocalShutdown → s.inner.state = .connected → s.inner.NobodyReceives) := by
  cases l with
  | event ev => exact iff_of_true (h.event ev) False.elim
  | call op =>
    have hnext : (s.call op).state.inner.state = s.inner.state.next (.call op) :=
      s.step_state (.call op)
    have hsame (hpre : s.inner.state = .shutdown) : (s.step (.call op)).state.ReceiversWoken :=
      fun _ => (nobodyReceives_call (ConnectionInnerExclusive.awaits_shutdown hpre)).mpr (h hpre)
    by_cases hl : (ConnectionLabel.call op).IsLocalShutdown
    · cases hc : s.inner.state with
      | connected =>
        -- the two calls enter Shutdown here; at most `poll_shutdown` waits, in its own list
        have hkeep : (s.call op).state.inner.NobodyReceives ↔ s.inner.NobodyReceives := by
          refine nobodyReceives_call fun {k w} ha => ?_
          cases op <;>
            simp_all [ConnectionLabel.IsLocalShutdown, ConnectionInnerExclusive.awaits]
        have hs : (s.call op).state.inner.state = .shutdown := by
          cases op <;> simp_all [ConnectionLabel.IsLocalShutdown, ConnectionState.next]
        simp only [hl, true_implies, ← hkeep]
        exact ⟨fun hw => hw hs, fun hn _ => hn⟩
      | shutdown => exact iff_of_true (hsame hc) fun _ hs => by cases hs
      | _ =>
        refine iff_of_true (fun hs => ?_) fun _ hs => by cases hs
        rw [ConnectionSys.step, hnext] at hs
        cases op <;> simp_all [ConnectionLabel.IsLocalShutdown, ConnectionState.next]
    · refine iff_of_true (fun hs => ?_) fun hl' => absurd hl' hl
      rw [ConnectionSys.step, hnext] at hs
      have hpre : s.inner.state = .shutdown := by
        cases op with
        | pollStart cx native =>
          simp only [ConnectionState.next] at hs
          split at hs
          · cases hs
          · exact hs
        | shutdown | pollShutdown => exact absurd trivial hl
        | _ => exact hs
      exact hsame hpre (by rw [ConnectionSys.step, hnext]; exact hs)

variable {ok : List (ConnectionStep ω) → ConnectionSys ω → ConnectionLabel ω → Prop}
  {tr : List (ConnectionStep ω)}

theorem error_isSome (h : (connectionSystem ok).Run tr s)
    (hs : s.inner.state = .shutdown ∨ s.inner.state = .shutdownComplete) :
    s.inner.error.isSome := by
  have hrec : s.inner.state = .shutdown ∨ s.inner.state = .shutdownComplete →
      s.inner.error ≠ none := by
    refine h.invariant_state (I := fun s =>
      s.inner.state = .shutdown ∨ s.inner.state = .shutdownComplete → s.inner.error ≠ none) ?_ ?_
    · rintro s (_ | _) (hs | hs) <;> cases hs
    · intro tr s l _ _ ih
      show (s.step l).state.inner.state = _ ∨ (s.step l).state.inner.state = _ →
        (s.step l).state.inner.error ≠ none
      rw [s.step_state, s.step_error]
      exact ConnectionState.nextError_ne_none ih l
  exact Option.isSome_iff_ne_none.mpr (hrec hs)

theorem whenConnected_lost {x : ConnectionInnerExclusive ω} {ε α : Type} {cx : ω} {notStarted : ε}
    {wrap : ConnectionError → ε} {body : ConnectionRan ω (Outcome (Poll (Except ε α)))}
    {err : ConnectionError} (hs : x.state = .shutdown) (he : x.error = some err) :
    (whenConnected x cx notStarted wrap body).result = .returned (.ready (.error (wrap err))) := by
  simp [whenConnected, Connection.lost, expect, hs, he]

/-- **In Shutdown no receiver is left asleep, exactly when** every local shutdown of a
connected connection finds none waiting. What they wait for would answer ConnectionLost. -/
theorem shutdown_wakes_receivers_iff (h : (connectionSystem ok).Run tr s) :
    ((s.ReceiversWoken ∧ ∀ e ∈ tr, e.pre.ReceiversWoken) ↔
      ∀ e ∈ tr, e.label.IsLocalShutdown → e.pre.inner.state = .connected →
        e.pre.inner.NobodyReceives) ∧
    (s.inner.state = .shutdown → ∃ err, ∀ cx,
      (pollAcceptInboundStream s.inner cx).result =
        .returned (.ready (.error (.connectionLost err))) ∧
      (pollReceiveDatagram s.inner cx).result =
        .returned (.ready (.error (.connectionLost err)))) := by
  constructor
  · refine h.always_iff (I := ConnectionSys.ReceiversWoken) (C := fun s l =>
      l.IsLocalShutdown → s.inner.state = .connected → s.inner.NobodyReceives) ?_ (fun _ => id) ?_
    · intro s hi
      cases hi <;> exact nofun
    · exact fun tr s l _ _ hp => ⟨(hp.step_iff l).mpr, (hp.step_iff l).mp⟩
  · intro hs
    obtain ⟨err, he⟩ := Option.isSome_iff_exists.mp (error_isSome h (.inl hs))
    exact ⟨err, fun cx => ⟨whenConnected_lost hs he, whenConnected_lost hs he⟩⟩

end

/-- A peer-initiated shutdown wakes a pending accept. -/
theorem shutdown_wakes_receivers_peer :
    ∃ (tr : List (ConnectionStep Nat)) (s : ConnectionSys Nat),
      (connectionSystem NothingFollowsShutdownComplete).Run tr s ∧ tr.map Step.label =
        [.event (.shutdownInitiatedByPeer 0), .call (.pollAcceptInboundStream 1)] ∧
      s.inner.state = .shutdown ∧ s.ReceiversWoken := by
  have hr := System.Run.step (S := connectionSystem NothingFollowsShutdownComplete)
    (.event (.shutdownInitiatedByPeer 0))
    (.step (.call (.pollAcceptInboundStream 1))
      (.start (.fromRaw none none : ConnectionSys.Init (ω := Nat) _)) nofun)
    (by simp [connectionSystem, NothingFollowsShutdownComplete, ConnectionLabel.IsShutdownComplete])
  refine ⟨_, _, hr, rfl, rfl, ((shutdown_wakes_receivers_iff hr).1.mpr ?_).1⟩
  simp [ConnectionLabel.IsLocalShutdown]

/-- A task pending in an accept while another shuts the connection down stays asleep. -/
theorem shutdown_leaves_accept :
    ∃ (tr : List (ConnectionStep Nat)) (s : ConnectionSys Nat),
      (connectionSystem NothingFollowsShutdownComplete).Run tr s ∧
      tr.map Step.label = [.call (.shutdown 0), .call (.pollAcceptInboundStream 1)] ∧
      s.inner.state = .shutdown ∧ s.inner.inboundStreamWaiters = [1] := by
  have hr := System.Run.step (S := connectionSystem NothingFollowsShutdownComplete)
    (.call (.shutdown 0))
    (.step (.call (.pollAcceptInboundStream 1))
      (.start (.fromRaw none none : ConnectionSys.Init (ω := Nat) _)) nofun) nofun
  exact ⟨_, _, hr, rfl, rfl, rfl⟩

end MsquicAsync
