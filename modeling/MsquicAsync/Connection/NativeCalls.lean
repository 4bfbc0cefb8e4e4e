import MsquicAsync.Connection.EventQueue
import MsquicAsync.Connection.Twins

/-!
# What a connection asks of MsQuic

The calls that steer a connection are a start and shutdowns, and the automaton of
the lifecycle says when they are made (`ConnectionState.controls`). So MsQuic
accepts at most one start, before anything else, and a connection is shut down at
most once for each time it became connected. A datagram goes to MsQuic only while
the connection is connected and within the limits that MsQuic reported last.
-/

namespace MsquicAsync

open Runs Connection

variable {ω : Type}

/-! ## Starts and shutdowns -/

/-- A start that MsQuic accepts, or a shutdown. -/
def ConnectionCall.isControl : ConnectionCall → Bool
  | start (.ok ()) | shutdown _ => true
  | _ => false

def controls (calls : List ConnectionCall) : List ConnectionCall :=
  calls.filter ConnectionCall.isControl

/-- The control calls that a label leads to. -/
def ConnectionState.controls (c : ConnectionState) : ConnectionLabel ω → List ConnectionCall
  | .call (.pollStart _ native) =>
    if c = .opened ∧ native.toBool then [.start native] else []
  | .call (.pollShutdown _ errorCode) | .call (.shutdown errorCode) =>
    if c = .connected then [.shutdown errorCode] else []
  | _ => []

theorem controls_whenConnected [WillWake ω] {x : ConnectionInnerExclusive ω} {ε α : Type} {cx : ω}
    {notStarted : ε} {wrap : ConnectionError → ε}
    {body : ConnectionRan ω (Outcome (Poll (Except ε α)))} (h : controls body.calls = []) :
    controls (whenConnected x cx notStarted wrap body).calls = [] := by
  unfold whenConnected
  split
  · rfl
  · rfl
  · exact h
  · rfl
  · rfl

theorem controls_checkedSendDatagram (x : ConnectionInnerExclusive ω) (buf : Bytes) (fresh : Nat)
    (native : NativeResult) : controls (checkedSendDatagram x buf fresh native).calls = [] := by
  unfold checkedSendDatagram
  split
  · rfl
  · split
    · rfl
    · cases native <;> rfl

namespace ConnectionSys

variable (s : ConnectionSys ω)

theorem dispatchEvent_controls (ev : MsquicConnectionEvent) :
    MsquicAsync.controls (s.dispatchEvent ev).calls = [] := by
  cases ev with
  | connected secrets =>
    simp only [dispatchEvent, after_calls, handleEventConnected]
    split
    · -- the key log is written, which no call to MsQuic is
      refine List.filter_eq_nil_iff.mpr fun c hc => ?_
      rcases List.mem_cons.mp hc with rfl | hc
      · exact Bool.noConfusion
      · obtain ⟨_, -, rfl⟩ := List.mem_map.mp hc
        exact Bool.noConfusion
    · rfl
  | datagramSendStateChanged clientContext state =>
    cases state
    case sent | canceled =>
      simp only [dispatchEvent]
      split <;> rfl
    all_goals rfl
  | notifyRemoteAddressAdded address sequenceNumber =>
    simp only [dispatchEvent, after_calls, handleEventNotifyRemoteAddressAdded]
    split <;> rfl
  | notifyObservedAddress | pathValidated | pathAdded | pathRemoved | pathStatusChanged =>
    simp only [dispatchEvent, after_calls, handleEventNotifyObservedAddress, handleEventPathValidated,
      handleEventPathAdded, handleEventPathRemoved, handleEventPathStatusChanged, pushAddrEvent]
    split <;> rfl
  | peerStreamStarted stream streamType => cases streamType <;> rfl
  | _ => rfl

variable [WillWake ω]

theorem call_controls (op : ConnectionOp ω) :
    MsquicAsync.controls (s.call op).calls = s.inner.state.controls (.call op) := by
  cases op with
  | pollStart cx native =>
    simp only [call, after_calls, pollStart, ConnectionState.controls]
    cases hs : s.inner.state with
    | opened => cases native <;> rfl
    | connecting | connected => rfl
    | shutdown | shutdownComplete => simp [Connection.lost, MsquicAsync.controls]
  | pollAcceptInboundStream | pollAcceptInboundUniStream | pollReceiveDatagram =>
    refine controls_whenConnected ?_
    split <;> rfl
  | pollOpenOutboundStream => exact controls_whenConnected rfl
  | pollSendDatagram => exact controls_whenConnected (controls_checkedSendDatagram ..)
  | sendDatagram buf fresh native =>
    simp only [call, after_calls, Connection.sendDatagram, ConnectionState.controls]
    split
    · rfl
    · rfl
    · exact controls_checkedSendDatagram ..
    · rfl
    · rfl
  | pollShutdown cx errorCode =>
    simp only [call, after_calls, Connection.pollShutdown, ConnectionState.controls]
    cases hs : s.inner.state with
    | shutdownComplete =>
      simp only
      split <;> rfl
    | connected => rfl
    | _ => rfl
  | shutdown errorCode =>
    simp only [call, after_calls, Connection.shutdown, ConnectionState.controls]
    cases hs : s.inner.state <;> rfl
  | pollEvent cx =>
    simp only [call, after_calls, Connection.pollEvent, ConnectionState.controls]
    split
    · rfl
    · rfl
    · split <;> rfl
    · split <;> rfl
    · rfl
  | setSslkeylogFile file box native =>
    simp only [call, after_calls, Connection.setSslkeylogFile, ConnectionState.controls]
    split
    · rfl
    · split
      · cases native <;> rfl
      · rfl

theorem step_controls (l : ConnectionLabel ω) :
    MsquicAsync.controls (s.step l).calls = s.inner.state.controls l := by
  cases l with
  | call op => exact s.call_controls op
  | event ev =>
    refine (s.dispatchEvent_controls ev).trans ?_
    cases ev <;> rfl

end ConnectionSys

/-! ## Over a run -/

/-- How many Connected events a label is. -/
def ConnectionLabel.connects : ConnectionLabel ω → Nat
  | event (.connected _) => 1
  | _ => 0

/-- What a label does to the state, with the control calls it makes on the way. -/
inductive ControlStep (c : ConnectionState) (l : ConnectionLabel ω) :
    List ConnectionCall → ConnectionState → Prop where
  | start (hc : c = .opened) : ControlStep c l [.start (.ok ())] .connecting
  | shutdown (errorCode : UInt64) (hc : c = .connected) :
    ControlStep c l [.shutdown errorCode] .shutdown
  | quiet {c' : ConnectionState} (hconn : c' = .connected → c = .connected ∨ l.connects = 1)
    (hopen : c' = .opened → c = .opened) : ControlStep c l [] c'

theorem controlStep (c : ConnectionState) (l : ConnectionLabel ω) :
    ControlStep c l (c.controls l) (c.next l) := by
  have hsame : ControlStep c l [] c := .quiet .inl id
  cases l with
  | call op =>
    cases op with
    | pollStart cx native =>
      simp only [ConnectionState.controls, ConnectionState.next]
      split
      · next h =>
        cases native with
        | ok _ => exact .start h.1
        | error e => cases h.2
      · exact hsame
    | pollShutdown cx errorCode =>
      simp only [ConnectionState.controls, ConnectionState.next]
      split
      · next h => exact .shutdown errorCode h
      · exact hsame
    | shutdown errorCode =>
      simp only [ConnectionState.controls, ConnectionState.next]
      split
      · next h => exact .shutdown errorCode h
      · exact hsame
    | _ => exact hsame
  | event ev =>
    cases ev with
    | connected => exact .quiet (fun _ => .inr rfl) fun h => by cases h
    | shutdownInitiatedByTransport | shutdownInitiatedByPeer | shutdownComplete =>
      exact .quiet (fun h => by cases h) fun h => by cases h
    | _ => exact hsame

/-- The control calls of a run, oldest first. -/
def controlCalls (tr : List (ConnectionStep ω)) : List ConnectionCall :=
  tr.reverse.flatMap fun e => controls e.out.calls

/-- How often MsQuic has raised Connected. -/
def connecteds (tr : List (ConnectionStep ω)) : Nat := (tr.map fun e => e.label.connects).sum

/-- 1 if the connection was accepted, and so was connected from the start; 0 if the application
opened it. -/
def accepted (tr : List (ConnectionStep ω)) (s : ConnectionSys ω) : Nat :=
  if (origin tr s).inner.state = .connected then 1 else 0

/-- A start at most that MsQuic accepts, of a connection that was not accepted itself, then
shutdowns, at most one for each time the connection became connected; `left` is what there is room
for. -/
structure ControlForm (tr : List (ConnectionStep ω)) (s : ConnectionSys ω) (left : Nat)
    (starts shutdowns : List ConnectionCall) : Prop where
  calls : controlCalls tr = starts ++ shutdowns
  onlyStarts : ∀ c ∈ starts, c = .start (.ok ())
  onlyShutdowns : ∀ c ∈ shutdowns, ∃ errorCode, c = .shutdown errorCode
  started : starts.length + accepted tr s ≤ 1
  shutDown : shutdowns.length + left ≤ connecteds tr + accepted tr s

structure ControlInv (tr : List (ConnectionStep ω)) (s : ConnectionSys ω) : Prop where
  form : ∃ starts shutdowns,
    ControlForm tr s (if s.inner.state = .connected then 1 else 0) starts shutdowns
  opened : s.inner.state = .opened → controlCalls tr = [] ∧ accepted tr s = 0

theorem ControlInv.start {s : ConnectionSys ω} (h : ConnectionSys.Init s) : ControlInv [] s := by
  refine ⟨⟨[], [], rfl, nofun, nofun, ?_, ?_⟩, fun hs => ⟨rfl, ?_⟩⟩
  · cases h <;> simp [accepted, origin, ConnectionInnerExclusive.new]
  · cases h <;> simp [accepted, origin, connecteds, ConnectionInnerExclusive.new]
  · exact if_neg (by rw [origin, hs]; decide)

section

variable [WillWake ω] {tr : List (ConnectionStep ω)} {s : ConnectionSys ω}
  {ok : List (ConnectionStep ω) → ConnectionSys ω → ConnectionLabel ω → Prop}

theorem ControlInv.step (h : ControlInv tr s) (l : ConnectionLabel ω) :
    ControlInv ((connectionSystem ok).take s l :: tr) (s.step l).state := by
  obtain ⟨⟨starts, shutdowns, hcalls, hstarts, hshut, hn, hm⟩, hopened⟩ := h
  have hc : controlCalls ((connectionSystem ok).take s l :: tr) =
      controlCalls tr ++ s.inner.state.controls l := by
    simp only [controlCalls, List.reverse_cons, List.flatMap_append, List.flatMap_cons,
      List.flatMap_nil, List.append_nil]
    exact congrArg _ (s.step_controls l)
  have hconn : connecteds ((connectionSystem ok).take s l :: tr) = l.connects + connecteds tr := rfl
  have hacc : accepted ((connectionSystem ok).take s l :: tr) (s.step l).state = accepted tr s := rfl
  have hcs := controlStep s.inner.state l
  have hstate := s.step_state l
  generalize s.inner.state.controls l = made, s.inner.state.next l = c' at hcs hstate hc
  cases hcs with
  | start hpre =>
    -- nothing was called before the start
    obtain ⟨hnil, hzero⟩ := hopened hpre
    refine ⟨⟨[.start (.ok ())], [], ?_, ?_, nofun, ?_, ?_⟩, fun hs => ?_⟩
    · rw [hc, hnil]
      rfl
    · exact fun c hc => List.mem_singleton.mp hc
    · rw [hacc, hzero]
      exact Nat.le_refl 1
    · rw [hstate]
      exact Nat.zero_le _
    · rw [hstate] at hs
      cases hs
  | shutdown errorCode hpre =>
    refine ⟨⟨starts, shutdowns ++ [.shutdown errorCode], ?_, hstarts, ?_, hn, ?_⟩, fun hs => ?_⟩
    · rw [hc, hcalls, List.append_assoc]
    · exact List.forall_mem_append.mpr ⟨hshut, fun c hc => ⟨errorCode, List.mem_singleton.mp hc⟩⟩
    · rw [if_pos hpre] at hm
      rw [hstate, hconn, hacc, List.length_append, List.length_singleton, if_neg (by decide)]
      omega
    · rw [hstate] at hs
      cases hs
  | quiet hto hopen =>
    rw [List.append_nil] at hc
    refine ⟨⟨starts, shutdowns, hc.trans hcalls, hstarts, hshut, hn, ?_⟩, fun hs => ?_⟩
    · rw [hstate, hconn, hacc]
      by_cases hc' : c' = .connected
      · rw [if_pos hc']
        rcases hto hc' with hpre | hone
        · rw [if_pos hpre] at hm
          omega
        · omega
      · rw [if_neg hc']
        omega
    · rw [hstate] at hs
      rw [hc, hacc]
      exact hopened (hopen hs)

theorem controlInv_run (h : (connectionSystem ok).Run tr s) : ControlInv tr s :=
  h.invariant (fun _ => .start) fun _ _ l _ _ ih => ih.step l

end

/-! ## Datagrams -/

/-- The datagram state that MsQuic reported last. -/
def lastDatagramState (tr : List (ConnectionStep ω)) : ConnectionEvent :=
  ((raisedEvents tr).filter ConnectionEvent.isDatagramState).getLast?.getD
    (.datagramStateChanged false 0)

theorem lastDatagramState_cons (e : ConnectionStep ω) (tr : List (ConnectionStep ω)) :
    lastDatagramState (e :: tr) =
      (e.label.raises.filter ConnectionEvent.isDatagramState).getD (lastDatagramState tr) := by
  have hr : raisedEvents (e :: tr) = raisedEvents tr ++ e.label.raises.toList := rfl
  rw [lastDatagramState, hr, List.filter_append]
  cases e.label.raises with
  | none => simp [lastDatagramState]
  | some ev =>
    cases hev : ev.isDatagramState with
    | true => simp [hev, Option.filter_some_pos]
    | false => simp [hev, Option.filter_some_neg, lastDatagramState]

section

variable [WillWake ω] {tr : List (ConnectionStep ω)} {s : ConnectionSys ω}
  {ok : List (ConnectionStep ω) → ConnectionSys ω → ConnectionLabel ω → Prop}

/-- What the sends check is what MsQuic reported last. -/
theorem live_eq (h : (connectionSystem ok).Run tr s) : s.inner.live = lastDatagramState tr := by
  refine h.invariant (I := fun tr s => s.inner.live = lastDatagramState tr) ?_
    fun tr s l _ _ ih => ?_
  · rintro _ (_ | _) <;> rfl
  · rw [lastDatagramState_cons, ← ih]
    cases l with
    | call op => exact (s.call_delivers op).live
    | event ev => exact (s.dispatchEvent_queues ev).live

omit [WillWake ω] in
theorem Connection.checkedSendDatagram_limits {x : ConnectionInnerExclusive ω} {buf : Bytes}
    {fresh : Nat} {native : NativeResult}
    (h : datagramSends (checkedSendDatagram x buf fresh native).calls ≠ []) :
    x.dgramSendEnabled = true ∧ buf.length ≤ x.dgramMaxSendLength.toNat := by
  unfold checkedSendDatagram at h
  split at h
  · exact absurd rfl h
  · next he =>
    split at h
    · exact absurd rfl h
    · next hlen => exact ⟨by simpa using he, by omega⟩

/-- **A datagram goes to MsQuic** only of a connected connection and within its limits. -/
theorem ConnectionSys.step_datagram {l : ConnectionLabel ω}
    (h : datagramSends (s.step l).calls ≠ []) :
    ∃ buf, l.pieces? = some [buf] ∧ s.inner.state = .connected ∧
      s.inner.dgramSendEnabled = true ∧ buf.length ≤ s.inner.dgramMaxSendLength.toNat := by
  cases l with
  | event ev =>
    refine absurd ?_ h
    cases ev with
    | datagramSendStateChanged clientContext state =>
      cases state
      case sent | canceled =>
        simp only [step, dispatchEvent]
        split <;> rfl
      all_goals rfl
    | _ => exact (boxStep_event rfl).2
  | call op =>
    cases op with
    | pollSendDatagram cx buf fresh native =>
      simp only [step, call, after_calls, Connection.pollSendDatagram, whenConnected] at h
      split at h
      · exact absurd rfl h
      · exact absurd rfl h
      · next hs => exact ⟨buf, rfl, hs, checkedSendDatagram_limits h⟩
      · exact absurd rfl h
      · exact absurd rfl h
    | sendDatagram buf fresh native =>
      simp only [step, call, after_calls, Connection.sendDatagram] at h
      split at h
      · exact absurd rfl h
      · exact absurd rfl h
      · next hs => exact ⟨buf, rfl, hs, checkedSendDatagram_limits h⟩
      · exact absurd rfl h
      · exact absurd rfl h
    | _ => exact absurd (boxStep_call rfl).2 h

theorem ConnectionTwins.run (h : (connectionSystem ok).Run tr s) : ConnectionTwins s s := by
  refine h.invariant_state (I := fun s => ConnectionTwins s s) (fun s hs => ?_)
    fun _ s l _ _ hs => (hs.step (connectionAlike_self s l)).1
  refine ⟨twins_self.mpr ?_, rfl⟩
  cases hs <;> exact List.forall_mem_nil _

/-- **What a connection asks of MsQuic**, in every run: one start at most that MsQuic accepts, first
of all and not of an accepted connection; then shutdowns, at most one for each time it became
connected; and datagrams only while it is connected, each whole and within the limits reported
last. -/
theorem native_calls_disciplined (h : (connectionSystem ok).Run tr s) :
    (∃ starts shutdowns, ControlForm tr s 0 starts shutdowns) ∧
      ∀ e tr', e :: tr' <:+ tr → ∀ m ∈ datagramSends e.out.calls,
        e.pre.inner.state = .connected ∧ e.label.pieces? = some [m.payload] ∧
          ∃ max, lastDatagramState tr' = .datagramStateChanged true max ∧
            m.payload.length ≤ max.toNat := by
  constructor
  · obtain ⟨starts, shutdowns, hform⟩ := (controlInv_run h).form
    exact ⟨starts, shutdowns, hform.calls, hform.onlyStarts, hform.onlyShutdowns, hform.started,
      Nat.le_trans (Nat.add_le_add_left (Nat.zero_le _) _) hform.shutDown⟩
  · intro e tr' hsuf m hm
    obtain ⟨hr, -, he⟩ := h.of_suffix hsuf
    rw [he] at hm
    have hm : m ∈ datagramSends (e.pre.step e.label).calls := hm
    obtain ⟨buf, hp, hs, hon, hlen⟩ := ConnectionSys.step_datagram (List.ne_nil_of_mem hm)
    have hpool : ∀ b ∈ e.pre.inner.writePool, b.Empty := (ConnectionTwins.run hr).inner.left
    have hpay : m.payload = buf := by
      cases hl : e.label with
      | event => rw [hl] at hp; cases hp
      | call op =>
        rw [hl] at hp hm
        have := (ConnectionSys.datagramStep_call hp).2 hpool m hm
        rwa [List.flatten_singleton] at this
    subst hpay
    refine ⟨hs, hp, e.pre.inner.dgramMaxSendLength, ?_, hlen⟩
    rw [← live_eq hr, ConnectionInnerExclusive.live, hon]

end

/-- A connection is started, connected, sends a datagram of the greatest length and is shut down
twice. -/
theorem native_calls_disciplined_datagram :
    ∃ (tr : List (ConnectionStep Nat)) (s : ConnectionSys Nat),
      (connectionSystem fun _ _ _ => True).Run tr s ∧ tr.map Step.label =
        [.call (.pollShutdown 1 0), .call (.shutdown 0),
          .call (.sendDatagram [1, 2] 100 (.ok ())), .event (.datagramStateChanged true 2),
          .event (.connected default), .call (.pollStart 1 (.ok ()))] ∧
      controlCalls tr = [.start (.ok ()), .shutdown 0] ∧
      ∃ starts shutdowns, ControlForm tr s 0 starts shutdowns := by
  have h0 := System.Run.start (S := connectionSystem (ω := Nat) fun _ _ _ => True) .new
  have h6 := (((((h0.step (.call (.pollStart 1 (.ok ()))) trivial).step
    (.event (.connected default)) trivial).step (.event (.datagramStateChanged true 2))
    trivial).step (.call (.sendDatagram [1, 2] 100 (.ok ()))) trivial).step
    (.call (.shutdown 0)) trivial).step (.call (.pollShutdown 1 0)) trivial
  exact ⟨_, _, h6, rfl, rfl, (native_calls_disciplined h6).1⟩

end MsquicAsync
