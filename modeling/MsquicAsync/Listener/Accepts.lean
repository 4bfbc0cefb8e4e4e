import MsquicAsync.Listener.System

/-!
# Accepting connections

The connections that `poll_accept` hands out, followed by those still queued, are
those whose NewConnection callback succeeded, in order. `WaitersFit` is the
invariant of the two waiter lists: whoever is in one would wait again.
-/

namespace MsquicAsync

open Runs Listener

variable {ω : Type}

/-! ## The queue -/

/-- The connection whose callback succeeded in a step, if one did. -/
def ListenerLabel.succeeded : ListenerLabel ω → ListenerRes → List Nat
  | newConnection connection _ _ _ _, .callback (.ok ()) => [connection]
  | _, _ => []

/-- The connection that a `poll_accept` handed out, if it did. -/
def ListenerRes.accepted : ListenerRes → List Nat
  | accept (.ready (.ok connection)) => [connection.handle]
  | _ => []

/-- The connections whose callbacks succeeded, oldest first. -/
def succeededCallbacks : List (ListenerStep ω) → List Nat
  | [] => []
  | e :: tr => succeededCallbacks tr ++ e.label.succeeded e.out.result

/-- The connections that were accepted, oldest first. -/
def acceptedConnections : List (ListenerStep ω) → List Nat
  | [] => []
  | e :: tr => acceptedConnections tr ++ e.out.result.accepted

def ListenerInnerExclusive.queued (x : ListenerInnerExclusive ω) : List Nat :=
  x.newConnections.map (·.handle)

section

variable {x : ListenerInnerExclusive ω}

theorem startWith_state (alpn : List Bytes) (localAddress : Option ListenAddr)
    (native : NativeResult) :
    (startWith x alpn localAddress native).state = x ∨
      (x.state = .opened ∨ x.state = .shutdownComplete) ∧
        (startWith x alpn localAddress native).state = { x with state := .startComplete } := by
  unfold startWith
  cases hs : x.state with
  | opened | shutdownComplete =>
    cases native with
    | error e => exact .inl rfl
    | ok => exact .inr ⟨by simp, rfl⟩
  | startComplete | shutdown => exact .inl rfl

theorem startWith_queued (alpn : List Bytes) (localAddress : Option ListenAddr)
    (native : NativeResult) : (startWith x alpn localAddress native).state.queued = x.queued := by
  rcases startWith_state (x := x) alpn localAddress native with h | ⟨-, h⟩
  · rw [h]
  · rw [h]
    rfl

/-- How a NewConnection callback ends: it queues its connection at the back and wakes whoever
waits for one, or it fails and changes nothing. -/
inductive CallbackEnds (x : ListenerInnerExclusive ω) (connection : Nat)
    (r : ListenerRan ω NativeResult) : Prop
  | queued (c : AcceptedConnection) (handle : c.handle = connection)
      (registered : ∀ b, c.tlsSecrets = some b → .setTlsSecrets connection b (.ok ()) ∈ r.calls)
      (result : r.result = .ok ()) (woken : r.woken = x.newConnectionWaiters)
      (state : r.state =
        { x with newConnections := x.newConnections ++ [c], newConnectionWaiters := [] })
  | failed (e : Status) (result : r.result = .error e) (woken : r.woken = []) (state : r.state = x)

theorem newConnection_ends (connection : Nat) (clone : Option Nat) (box : Nat)
    (setParam setConfiguration : NativeResult) :
    CallbackEnds x connection
      (handleEventNewConnection x connection clone box setParam setConfiguration) := by
  unfold handleEventNewConnection
  split
  · next file _ =>
    cases setParam with
    | error e => exact .failed e rfl rfl rfl
    | ok =>
      cases setConfiguration with
      | error e => exact .failed e rfl rfl rfl
      | ok =>
        refine .queued ⟨connection, some box, some file⟩ rfl (fun b hb => ?_) rfl rfl rfl
        obtain rfl : box = b := Option.some.inj hb
        exact List.mem_cons_self
  · cases setConfiguration with
    | error e => exact .failed e rfl rfl rfl
    | ok => exact .queued ⟨connection, none, none⟩ rfl (fun b hb => by cases hb) rfl rfl rfl

/-- What a poll of an accept future does: it takes the oldest connection, or it changes nothing
but the waiters. -/
inductive AcceptEnds (x : ListenerInnerExclusive ω)
    (r : ListenerRan ω (Poll (Except ListenError AcceptedConnection))) : Prop
  | took (c : AcceptedConnection) (rest : List AcceptedConnection)
      (queue : x.newConnections = c :: rest) (result : r.result = .ready (.ok c))
      (state : r.state = { x with newConnections := rest })
  | refused (e : ListenError) (queue : x.newConnections = []) (result : r.result = .ready (.error e))
      (state : r.state = x)
  | waits (waiters : List ω) (queue : x.newConnections = [])
      (serving : x.state = .startComplete ∨ x.state = .shutdown) (result : r.result = .pending)
      (state : r.state = { x with newConnectionWaiters := waiters })

theorem pollAccept_ends [WillWake ω] (cx : ω) : AcceptEnds x (pollAccept x cx) := by
  unfold pollAccept
  split
  · next c rest hq => exact .took c rest hq rfl rfl
  · next hq =>
    split
    · exact .refused .notStarted hq rfl rfl
    · next hs => exact .waits _ hq (.inl hs) rfl rfl
    · next hs => exact .waits _ hq (.inr hs) rfl rfl
    · exact .refused .finished hq rfl rfl

theorem pollStop_queued [WillWake ω] (cx : ω) : (pollStop x cx).state.queued = x.queued := by
  unfold pollStop
  cases x.state <;> rfl

theorem setSslkeylogFile_queued (file : Nat) :
    (setSslkeylogFile x file).state.queued = x.queued := by
  unfold setSslkeylogFile
  split <;> rfl

end

section

variable [WillWake ω] {s : ListenerSys ω}

/-- **One step of the queue**: what it held and what succeeded is what was accepted and what it
holds. -/
theorem ListenerSys.step_queued (l : ListenerLabel ω) :
    s.inner.queued ++ l.succeeded (s.step l).result =
      (s.step l).result.accepted ++ (s.step l).state.inner.queued := by
  cases l with
  | start alpn localAddress native =>
    exact (List.append_nil _).trans (startWith_queued _ _ _).symm
  | startOnPort alpn localPort native =>
    exact (List.append_nil _).trans (startWith_queued _ _ _).symm
  | pollAccept cx =>
    refine (List.append_nil _).trans ?_
    show _ = (ListenerRes.accept (pollAccept s.inner cx).result).accepted ++
      (pollAccept s.inner cx).state.queued
    cases pollAccept_ends (x := s.inner) cx with
    | took c rest queue result state =>
      rw [result, state, ListenerInnerExclusive.queued, queue]
      rfl
    | refused e queue result state =>
      rw [result, state]
      rfl
    | waits waiters queue serving result state =>
      rw [result, state]
      rfl
  | pollStop fut cx => exact (List.append_nil _).trans (pollStop_queued cx).symm
  | nativeStop fut => exact List.append_nil _
  | setSslkeylogFile file => exact (List.append_nil _).trans (setSslkeylogFile_queued file).symm
  | newConnection connection clone box setParam setConfiguration =>
    have hends := newConnection_ends (x := s.inner) connection clone box setParam setConfiguration
    simp only [step, Ran.lift_result, Ran.lift_state]
    cases hends with
    | queued c handle registered result woken state =>
      rw [result, state, ← handle]
      show _ = List.map (·.handle) (s.inner.newConnections ++ [c])
      rw [List.map_append]
      rfl
    | failed e result woken state =>
      rw [result, state]
      exact List.append_nil _
  | stopComplete => exact List.append_nil _

variable {tr : List (ListenerStep ω)}
  {ok : List (ListenerStep ω) → ListenerSys ω → ListenerLabel ω → Prop}

theorem run_queued (h : (listenerSystem ok).Run tr s) :
    acceptedConnections tr ++ s.inner.queued = succeededCallbacks tr := by
  refine h.invariant
    (I := fun tr s => acceptedConnections tr ++ s.inner.queued = succeededCallbacks tr) ?_ ?_
  · rintro _ rfl
    rfl
  · intro tr s l _ _ ih
    show (acceptedConnections tr ++ (s.step l).result.accepted) ++ (s.step l).state.inner.queued =
      succeededCallbacks tr ++ l.succeeded (s.step l).result
    rw [← ih, List.append_assoc, ← ListenerSys.step_queued, List.append_assoc]

end

/-! ## The waiters -/

/-- Whoever waits for a connection finds none, and whoever waits for the stop finds it under
way. -/
structure WaitersFit (x : ListenerInnerExclusive ω) : Prop where
  accept : x.newConnectionWaiters ≠ [] →
    x.newConnections = [] ∧ (x.state = .startComplete ∨ x.state = .shutdown)
  stop : x.shutdownCompleteWaiters ≠ [] → x.state = .shutdown

namespace WaitersFit

variable {x : ListenerInnerExclusive ω}

theorem startWith (h : WaitersFit x) (alpn : List Bytes) (localAddress : Option ListenAddr)
    (native : NativeResult) : WaitersFit (startWith x alpn localAddress native).state := by
  rcases startWith_state (x := x) alpn localAddress native with heq | ⟨hs, heq⟩
  · rw [heq]
    exact h
  · rw [heq]
    refine ⟨fun hne => ?_, fun hne => ?_⟩
    · exact ⟨(h.accept hne).1, .inl rfl⟩
    · have := h.stop hne
      rcases hs with hs | hs <;> rw [hs] at this <;> cases this

theorem pollAccept [WillWake ω] (h : WaitersFit x) (cx : ω) :
    WaitersFit (pollAccept x cx).state := by
  cases pollAccept_ends (x := x) cx with
  | took c rest queue result state =>
    rw [state]
    refine ⟨fun hne => ?_, h.stop⟩
    have := (h.accept hne).1
    rw [queue] at this
    cases this
  | refused e queue result state =>
    rw [state]
    exact h
  | waits waiters queue serving result state =>
    rw [state]
    exact ⟨fun _ => ⟨queue, serving⟩, h.stop⟩

theorem pollStop [WillWake ω] (h : WaitersFit x) (cx : ω) : WaitersFit (pollStop x cx).state := by
  unfold Listener.pollStop
  split
  · exact h
  · exact ⟨fun hne => ⟨(h.accept hne).1, .inr rfl⟩, fun _ => rfl⟩
  · next hs => exact ⟨h.accept, fun _ => hs⟩
  · exact h

theorem setSslkeylogFile (h : WaitersFit x) (file : Nat) :
    WaitersFit (setSslkeylogFile x file).state := by
  unfold Listener.setSslkeylogFile
  split
  · exact h
  · exact ⟨h.accept, h.stop⟩

theorem newConnection (h : WaitersFit x) (connection : Nat) (clone : Option Nat) (box : Nat)
    (setParam setConfiguration : NativeResult) :
    WaitersFit (handleEventNewConnection x connection clone box setParam setConfiguration).state := by
  cases newConnection_ends (x := x) connection clone box setParam setConfiguration with
  | queued c handle registered result woken state =>
    rw [state]
    exact ⟨fun hne => absurd rfl hne, h.stop⟩
  | failed e result woken state =>
    rw [state]
    exact h

theorem stopComplete : WaitersFit (handleEventStopComplete x).state :=
  ⟨fun hne => absurd rfl hne, fun hne => absurd rfl hne⟩

theorem step [WillWake ω] {s : ListenerSys ω} (h : WaitersFit s.inner) (l : ListenerLabel ω) :
    WaitersFit (s.step l).state.inner := by
  cases l with
  | start alpn localAddress native => exact h.startWith _ _ _
  | startOnPort alpn localPort native => exact h.startWith _ _ _
  | pollAccept cx => exact h.pollAccept cx
  | pollStop fut cx => exact h.pollStop cx
  | nativeStop fut => exact h
  | setSslkeylogFile file => exact h.setSslkeylogFile file
  | newConnection connection clone box setParam setConfiguration =>
    exact h.newConnection connection clone box setParam setConfiguration
  | stopComplete => exact stopComplete

end WaitersFit

section

variable [WillWake ω] {s : ListenerSys ω} {tr : List (ListenerStep ω)}
  {ok : List (ListenerStep ω) → ListenerSys ω → ListenerLabel ω → Prop}

theorem run_waitersFit (h : (listenerSystem ok).Run tr s) : WaitersFit s.inner := by
  refine h.invariant_state (I := fun s => WaitersFit s.inner) ?_ ?_
  · rintro _ rfl
    exact ⟨fun hne => absurd rfl hne, fun hne => absurd rfl hne⟩
  · exact fun tr s l _ _ hinv => hinv.step l

theorem ListenerSys.accept_error {l : ListenerLabel ω} {err : ListenError}
    (h : (s.step l).result = .accept (.ready (.error err))) : s.inner.newConnections = [] := by
  cases l with
  | pollAccept cx =>
    have hres : (Listener.pollAccept s.inner cx).result = .ready (.error err) := by
      injection h
    cases pollAccept_ends (x := s.inner) cx with
    | took c rest queue result state =>
      rw [result] at hres
      cases hres
    | refused e queue result state => exact queue
    | waits waiters queue serving result state => exact queue
  | _ => cases h

/-- A failed callback changes nothing and wakes nobody. -/
theorem ListenerSys.newConnection_failed {connection box : Nat} {clone : Option Nat} {e : Status}
    {setParam setConfiguration : NativeResult}
    (h : (s.step (.newConnection connection clone box setParam setConfiguration)).result =
      .callback (.error e)) :
    (s.step (.newConnection connection clone box setParam setConfiguration)).state = s ∧
      (s.step (.newConnection connection clone box setParam setConfiguration)).woken = [] := by
  have hres : (handleEventNewConnection s.inner connection clone box setParam
      setConfiguration).result = .error e := by
    injection h
  have hends := newConnection_ends (x := s.inner) connection clone box setParam setConfiguration
  simp only [step, Ran.lift_state, Ran.lift_woken]
  cases hends with
  | queued c handle registered result woken state =>
    rw [result] at hres
    cases hres
  | failed e result woken state =>
    rw [state, woken]
    exact ⟨rfl, rfl⟩

/-- **Accepts lose nothing and hang nobody**: along every run the accepted connections and the
queued ones are those whose callbacks succeeded, in order; an accept fails only on an empty
queue; whoever waits would wait again; and a failed callback queues nothing. -/
theorem listener_accepts_sound (h : (listenerSystem ok).Run tr s) :
    acceptedConnections tr ++ s.inner.newConnections.map (·.handle) = succeededCallbacks tr ∧
    (∀ e ∈ tr, ∀ err, e.out.result = .accept (.ready (.error err)) →
      e.pre.inner.newConnections = []) ∧
    (s.inner.newConnectionWaiters ≠ [] → s.inner.newConnections = [] ∧
      (s.inner.state = .startComplete ∨ s.inner.state = .shutdown)) ∧
    (s.inner.shutdownCompleteWaiters ≠ [] → s.inner.state = .shutdown) ∧
    ∀ e ∈ tr, ∀ connection clone box setParam setConfiguration err,
      e.label = .newConnection connection clone box setParam setConfiguration →
      e.out.result = .callback (.error err) →
      e.post.inner.newConnections = e.pre.inner.newConnections := by
  have hfit := run_waitersFit h
  refine ⟨run_queued h, fun e he err hres => ?_, hfit.accept, hfit.stop,
    fun e he connection clone box setParam setConfiguration err hl hres => ?_⟩
  · obtain ⟨tr', -, -, htake⟩ := h.of_mem he
    rw [htake] at hres
    exact ListenerSys.accept_error hres
  · obtain ⟨tr', -, -, htake⟩ := h.of_mem he
    rw [hl] at htake
    have hstate : e.post = (e.pre.step (.newConnection connection clone box setParam
        setConfiguration)).state := congrArg Step.post htake
    have hout : e.out = (e.pre.step (.newConnection connection clone box setParam
        setConfiguration)).toOut := congrArg Step.out htake
    rw [hout] at hres
    rw [hstate, (ListenerSys.newConnection_failed hres).1]

end

/-- Two callbacks, one of which fails, a stop and a restart around them: the connection queued
before the stop is still handed out, and then the future waits. -/
theorem listener_accepts_sound_restart :
    ∃ (tr : List (ListenerStep Nat)) (s : ListenerSys Nat),
      (listenerSystem OnePollAtATime).Run tr s ∧ tr.map Step.label =
        [.pollAccept 1, .pollAccept 1, .start [] none (.ok ()), .stopComplete false,
          .newConnection 8 none 0 (.ok ()) (.error 1), .newConnection 7 none 0 (.ok ()) (.ok ()),
          .start [] none (.ok ())] ∧
      acceptedConnections tr = [7] ∧ s.inner.newConnectionWaiters = [1] ∧
      s.inner.newConnections = [] := by
  have hr := System.Run.step (S := listenerSystem OnePollAtATime) (.pollAccept 1)
    (.step (.pollAccept 1) (.step (.start [] none (.ok ())) (.step (.stopComplete false)
      (.step (.newConnection 8 none 0 (.ok ()) (.error 1))
        (.step (.newConnection 7 none 0 (.ok ()) (.ok ()))
          (.step (.start [] none (.ok ()))
            (.start (rfl : ({ inner := {} } : ListenerSys Nat) = _)) (by trivial))
          (by trivial)) (by trivial)) (by trivial)) (by trivial)) (by trivial)) (by trivial)
  have hw := listener_accepts_sound hr
  exact ⟨_, _, hr, rfl, rfl, rfl, (hw.2.2.1 (List.cons_ne_nil _ _)).1⟩

end MsquicAsync
