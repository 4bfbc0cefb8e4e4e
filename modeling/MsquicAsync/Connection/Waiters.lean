import Mathlib.Logic.Function.Basic
import MsquicAsync.Connection.Lifecycle

/-!
# Who waits on a connection, and who is woken

The six waiter lists are one board, indexed by `WaiterList`. `awaits` says where
a call registers its task, `drains` which lists an event wakes; `call_waiters`
and `dispatchEvent_waiters` say that the model does exactly that and nothing
else. A task is `Owed` a wake from the poll that returned Pending until some
waker for it is woken; an owed task always has a waker on the board
(`Owed.exists_waker`).
-/

namespace MsquicAsync

open Runs Connection

inductive WaiterList where
  | start
  | inboundStream
  | inboundUniStream
  | recv
  | shutdown
  | event
  deriving DecidableEq, Repr

variable {ω : Type}

namespace ConnectionInnerExclusive

def waiters (x : ConnectionInnerExclusive ω) : WaiterList → List ω
  | .start => x.startWaiters
  | .inboundStream => x.inboundStreamWaiters
  | .inboundUniStream => x.inboundUniStreamWaiters
  | .recv => x.recvWaiters
  | .shutdown => x.shutdownWaiters
  | .event => x.eventWaiters

/-- The gate's part of `awaits`: while connecting every poll waits for the start. -/
def awaitsConnected (x : ConnectionInnerExclusive ω) (cx : ω) (body : Option (WaiterList × ω)) :
    Option (WaiterList × ω) :=
  match x.state with
  | .connecting => some (.start, cx)
  | .connected => body
  | _ => none

/-- The list a call registers its task in, and the task's waker; `none` if the call does not
wait. -/
def awaits (x : ConnectionInnerExclusive ω) : ConnectionOp ω → Option (WaiterList × ω)
  | .pollStart cx native =>
    match x.state with
    | .opened => if native.toBool then some (.start, cx) else none
    | .connecting => some (.start, cx)
    | _ => none
  | .pollAcceptInboundStream cx =>
    x.awaitsConnected cx (if x.inboundStreams = [] then some (.inboundStream, cx) else none)
  | .pollAcceptInboundUniStream cx =>
    x.awaitsConnected cx (if x.inboundUniStreams = [] then some (.inboundUniStream, cx) else none)
  | .pollReceiveDatagram cx =>
    x.awaitsConnected cx (if x.recvBuffers = [] then some (.recv, cx) else none)
  | .pollSendDatagram cx _ _ _ => x.awaitsConnected cx none
  | .pollOpenOutboundStream cx => x.awaitsConnected cx none
  | .pollShutdown cx _ =>
    match x.state with
    | .connecting => some (.start, cx)
    | .connected | .shutdown => some (.shutdown, cx)
    | _ => none
  | .pollEvent cx =>
    match x.state with
    | .connecting => some (.start, cx)
    | .connected | .shutdown => if x.events = [] then some (.event, cx) else none
    | _ => none
  | .sendDatagram _ _ _ | .shutdown _ | .setSslkeylogFile _ _ _ => none

end ConnectionInnerExclusive

/-- The lists an event drains, waking everyone in them. -/
def MsquicConnectionEvent.drains : MsquicConnectionEvent → List WaiterList
  | connected _ => [.start]
  | shutdownInitiatedByTransport _ _ | shutdownInitiatedByPeer _ => [.start, .inboundStream, .recv]
  | shutdownComplete _ _ _ => [.start, .inboundStream, .recv, .shutdown, .event]
  | peerStreamStarted _ .bidirectional => [.inboundStream]
  | peerStreamStarted _ .unidirectional => [.inboundUniStream]
  | datagramReceived _ => [.recv]
  | datagramStateChanged _ _ | localAddressesChanged _ _ _ | notifyRemoteAddressRemoved _ => [.event]
  | notifyRemoteAddressAdded a _ => if a.asSocket.isSome then [.event] else []
  | notifyObservedAddress a b | pathValidated a b => addrDrains a b
  | pathAdded p l _ | pathRemoved p l _ | pathStatusChanged p l _ _ => addrDrains l p
  | _ => []
where
  /-- An event about two addresses is queued only if both are socket addresses. -/
  addrDrains (a b : Addr) : List WaiterList :=
    if a.asSocket.isSome ∧ b.asSocket.isSome then [.event] else []

/-- The board after a registration. -/
def boardAfter [WillWake ω] (board : WaiterList → List ω) :
    Option (WaiterList × ω) → WaiterList → List ω
  | none => board
  | some (k, cx) => Function.update board k (registerWaker (board k) cx)

/-! ## The model follows the board -/

/-- A call registers as `a` says, wakes nobody, and is pending (`P`) exactly when it has
registered. -/
structure Waits {ρ : Type} [WillWake ω] (x : ConnectionInnerExclusive ω)
    (a : Option (WaiterList × ω)) (P : ρ → Prop) (r : ConnectionRan ω ρ) : Prop where
  board : r.state.waiters = boardAfter x.waiters a
  woken : r.woken = []
  pending : P r.result ↔ a.isSome

/-- A poll that is pending. -/
def IsPending {α : Type} (r : Outcome (Poll α)) : Prop := r = .returned .pending

section

variable [WillWake ω] {x : ConnectionInnerExclusive ω}

theorem waits_none {ρ : Type} {P : ρ → Prop} {r : ConnectionRan ω ρ}
    (hb : r.state.waiters = x.waiters) (hw : r.woken = []) (hp : ¬ P r.result) :
    Waits x none P r :=
  ⟨hb, hw, by simpa using hp⟩

theorem waits_ready {α : Type} {y : ConnectionInnerExclusive ω} {v : α}
    {calls : List ConnectionCall} (hb : y.waiters = x.waiters) :
    Waits x none IsPending { state := y, result := .returned (.ready v), calls := calls } :=
  waits_none hb rfl nofun

theorem waits_register {α : Type} {y : ConnectionInnerExclusive ω} {k : WaiterList} {cx : ω}
    {calls : List ConnectionCall} (hb : y.waiters = boardAfter x.waiters (some (k, cx))) :
    Waits x (some (k, cx)) IsPending
      ({ state := y, result := .returned .pending, calls := calls } :
        ConnectionRan ω (Outcome (Poll α))) where
  board := hb
  woken := rfl
  pending := by simp [IsPending]

theorem waits_pendStart {α : Type} (cx : ω) :
    Waits x (some (.start, cx)) IsPending
      (pendStart x cx : ConnectionRan ω (Outcome (Poll α))) :=
  waits_register (by funext k; cases k <;> rfl)

theorem waits_lost {ε α : Type} (wrap : ConnectionError → ε) :
    Waits x none IsPending
      (Connection.lost x wrap : ConnectionRan ω (Outcome (Poll (Except ε α)))) := by
  refine waits_none rfl rfl ?_
  cases he : x.error <;> simp [IsPending, Connection.lost, expect, he]

theorem Waits.whenConnected {ε α : Type} {cx : ω} {notStarted : ε} {wrap : ConnectionError → ε}
    {body : ConnectionRan ω (Outcome (Poll (Except ε α)))} {a : Option (WaiterList × ω)}
    (h : Waits x a IsPending body) :
    Waits x (x.awaitsConnected cx a) IsPending (whenConnected x cx notStarted wrap body) := by
  unfold Connection.whenConnected ConnectionInnerExclusive.awaitsConnected
  cases x.state with
  | opened => exact waits_ready rfl
  | connecting => exact waits_pendStart cx
  | connected => exact h
  | shutdown | shutdownComplete => exact waits_lost wrap

theorem waits_checkedSendDatagram (buf : Bytes) (fresh : Nat) (native : NativeResult) :
    Waits x none (fun _ => False) (checkedSendDatagram x buf fresh native) := by
  obtain ⟨pool, hpool⟩ := checkedSendDatagram_pool x buf fresh native
  refine waits_none (by rw [hpool]; rfl) ?_ id
  unfold checkedSendDatagram
  split
  · rfl
  · split
    · rfl
    · cases native <;> rfl

end

/-- From `x` to `y` the lists `ks` are emptied, exactly who was in them is woken, and the
other lists are left alone. -/
structure Drains (x : ConnectionInnerExclusive ω) (ks : List WaiterList)
    (y : ConnectionInnerExclusive ω) (woken : List ω) : Prop where
  board : ∀ k, y.waiters k = if k ∈ ks then [] else x.waiters k
  woken : woken = ks.flatMap x.waiters

section

variable {x : ConnectionInnerExclusive ω}

theorem drains_nil {y : ConnectionInnerExclusive ω} (h : y.waiters = x.waiters) :
    Drains x [] y [] :=
  ⟨fun k => by rw [h]; rfl, rfl⟩

theorem drains_pushEvent (event : ConnectionEvent) :
    Drains x [.event] (pushEvent x event).state (pushEvent x event).woken where
  board k := by cases k <;> rfl
  woken := (List.append_nil _).symm

theorem drains_pushAddrEvent (a b : Addr) (event : SocketAddr → SocketAddr → ConnectionEvent) :
    Drains x (MsquicConnectionEvent.drains.addrDrains a b) (pushAddrEvent x a b event).state
      (pushAddrEvent x a b event).woken := by
  unfold pushAddrEvent MsquicConnectionEvent.drains.addrDrains
  cases a.asSocket <;> cases b.asSocket
  case some.some => exact drains_pushEvent _
  all_goals exact drains_nil rfl

theorem drains_connected (secrets : Nat → TlsSecrets) :
    Drains x [.start] (handleEventConnected x secrets).state
      (handleEventConnected x secrets).woken := by
  unfold handleEventConnected
  cases x.tlsSecrets <;> cases x.sslkeylogFile
  all_goals exact ⟨fun k => by cases k <;> rfl, (List.append_nil _).symm⟩

end

namespace ConnectionSys

theorem Waits.after {ρ : Type} [WillWake ω] {s : ConnectionSys ω} {a : Option (WaiterList × ω)}
    {P : ρ → Prop} {r : ConnectionRan ω ρ} (h : Waits s.inner a P r) {g : ρ → ConnectionRes}
    (hg : ∀ v, (g v).Pending ↔ P v) :
    (s.after r g).state.inner.waiters = boardAfter s.inner.waiters a ∧ (s.after r g).woken = [] ∧
      ((s.after r g).result.Pending ↔ a.isSome) :=
  ⟨h.board, h.woken, (hg _).trans h.pending⟩

/-- **What a call does to the board**: it registers where `awaits` says, wakes nobody, and is
pending exactly when it has registered. -/
theorem call_waits [WillWake ω] (s : ConnectionSys ω) (op : ConnectionOp ω) :
    (s.call op).state.inner.waiters = boardAfter s.inner.waiters (s.inner.awaits op) ∧
      (s.call op).woken = [] ∧ ((s.call op).result.Pending ↔ (s.inner.awaits op).isSome) := by
  cases op with
  | pollStart cx native =>
    refine Waits.after (P := IsPending) ?_ fun _ => Iff.rfl
    unfold pollStart ConnectionInnerExclusive.awaits
    cases s.inner.state with
    | opened =>
      cases native with
      | error e => exact waits_ready rfl
      | ok => exact waits_register (by funext k; cases k <;> rfl)
    | connecting => exact waits_pendStart cx
    | connected => exact waits_ready rfl
    | shutdown | shutdownComplete => exact waits_lost _
  | pollAcceptInboundStream cx =>
    refine Waits.after (P := IsPending) (.whenConnected ?_) fun _ => Iff.rfl
    cases s.inner.inboundStreams with
    | nil => exact waits_register (by funext k; cases k <;> rfl)
    | cons => exact waits_ready rfl
  | pollAcceptInboundUniStream cx =>
    refine Waits.after (P := IsPending) (.whenConnected ?_) fun _ => Iff.rfl
    cases s.inner.inboundUniStreams with
    | nil => exact waits_register (by funext k; cases k <;> rfl)
    | cons => exact waits_ready rfl
  | pollReceiveDatagram cx =>
    refine Waits.after (P := IsPending) (.whenConnected ?_) fun _ => Iff.rfl
    cases s.inner.recvBuffers with
    | nil => exact waits_register (by funext k; cases k <;> rfl)
    | cons => exact waits_ready rfl
  | pollSendDatagram cx buf fresh native =>
    have h := waits_checkedSendDatagram (x := s.inner) buf fresh native
    refine Waits.after (P := IsPending) (.whenConnected ?_) fun _ => Iff.rfl
    exact waits_none h.board h.woken (by simp [IsPending])
  | sendDatagram buf fresh native =>
    refine Waits.after (P := fun _ => False) ?_ fun _ => Iff.rfl
    have h := waits_checkedSendDatagram (x := s.inner) buf fresh native
    unfold Connection.sendDatagram
    cases s.inner.state with
    | connected => exact waits_none h.board h.woken id
    | _ => exact waits_none rfl rfl id
  | pollShutdown cx errorCode =>
    refine Waits.after (P := IsPending) ?_ fun _ => Iff.rfl
    unfold Connection.pollShutdown ConnectionInnerExclusive.awaits
    cases s.inner.state with
    | opened => exact waits_ready rfl
    | connecting => exact waits_pendStart cx
    | connected | shutdown => exact waits_register (by funext k; cases k <;> rfl)
    | shutdownComplete =>
      simp only
      split
      · exact waits_ready rfl
      · exact waits_lost _
  | shutdown errorCode =>
    refine Waits.after (P := fun _ => False) ?_ fun _ => Iff.rfl
    unfold Connection.shutdown
    cases s.inner.state <;> exact waits_none rfl rfl id
  | pollEvent cx =>
    refine Waits.after (P := IsPending) ?_ fun _ => Iff.rfl
    unfold Connection.pollEvent ConnectionInnerExclusive.awaits
    cases s.inner.state with
    | opened => exact waits_ready rfl
    | connecting => exact waits_pendStart cx
    | connected | shutdown =>
      cases he : s.inner.events with
      | nil => exact waits_register (by funext k; cases k <;> rfl)
      | cons => exact waits_ready rfl
    | shutdownComplete => exact waits_lost _
  | pollOpenOutboundStream cx =>
    refine Waits.after (P := IsPending) (.whenConnected ?_) fun _ => Iff.rfl
    exact waits_ready rfl
  | setSslkeylogFile file box native =>
    refine Waits.after (P := fun _ => False) ?_ fun _ => Iff.rfl
    unfold Connection.setSslkeylogFile
    split
    · exact waits_none rfl rfl id
    · split
      · cases native <;> exact waits_none rfl rfl id
      · exact waits_none rfl rfl id

/-- **What an event does to the board**: it drains the lists `drains` names, and returns to
MsQuic. -/
theorem dispatchEvent_drains (s : ConnectionSys ω) (ev : MsquicConnectionEvent) :
    Drains s.inner ev.drains (s.dispatchEvent ev).state.inner (s.dispatchEvent ev).woken ∧
      ∃ r, (s.dispatchEvent ev).result = .callback r := by
  cases ev with
  | datagramSendStateChanged clientContext state =>
    simp only [dispatchEvent]
    cases state
    case sent | canceled =>
      cases WriteBuffer.fromRaw s.native clientContext <;> exact ⟨drains_nil rfl, _, rfl⟩
    all_goals exact ⟨drains_nil rfl, _, rfl⟩
  | peerStreamStarted stream streamType =>
    cases streamType
    all_goals exact ⟨⟨fun k => by cases k <;> rfl, (List.append_nil _).symm⟩, _, rfl⟩
  | connected secrets => exact ⟨drains_connected secrets, _, rfl⟩
  | notifyRemoteAddressAdded address sequenceNumber =>
    refine ⟨?_, _, rfl⟩
    simp only [dispatchEvent, handleEventNotifyRemoteAddressAdded, MsquicConnectionEvent.drains]
    cases address.asSocket with
    | none => exact drains_nil rfl
    | some => exact drains_pushEvent _
  | notifyObservedAddress | pathValidated | pathAdded | pathRemoved | pathStatusChanged =>
    exact ⟨drains_pushAddrEvent _ _ _, _, rfl⟩
  | shutdownInitiatedByTransport | shutdownInitiatedByPeer | shutdownComplete =>
    refine ⟨⟨fun k => by cases k <;> rfl, ?_⟩, _, rfl⟩
    simp [MsquicConnectionEvent.drains, dispatchEvent, handleEventShutdownInitiatedByTransport,
      handleEventShutdownInitiatedByPeer, shutdownInitiated, handleEventShutdownComplete,
      ConnectionInnerExclusive.waiters]
  | datagramStateChanged | datagramReceived | localAddressesChanged
  | notifyRemoteAddressRemoved =>
    exact ⟨⟨fun k => by cases k <;> rfl, (List.append_nil _).symm⟩, _, rfl⟩
  | peerCertificateReceived | streamsAvailable | other => exact ⟨drains_nil rfl, _, rfl⟩

end ConnectionSys

/-! ## Owed wakes -/

/-- The waker of the task that made the call. -/
def ConnectionOp.task : ConnectionOp ω → Option ω
  | pollStart cx _ | pollAcceptInboundStream cx | pollAcceptInboundUniStream cx
  | pollReceiveDatagram cx | pollSendDatagram cx _ _ _ | pollShutdown cx _ | pollEvent cx
  | pollOpenOutboundStream cx => some cx
  | sendDatagram _ _ _ | shutdown _ | setSslkeylogFile _ _ _ => none

def ConnectionLabel.task : ConnectionLabel ω → Option ω
  | call op => op.task
  | event _ => none

/-- A poll of the task returned Pending, and none of its wakers has been woken since. -/
def Owed [WillWake ω] : List (ConnectionStep ω) → ω → Prop
  | [], _ => False
  | e :: tr, cx =>
    (e.label.task = some cx ∧ e.out.result.Pending) ∨
      (Owed tr cx ∧ ∀ w ∈ e.out.woken, ¬ Wakes w cx)

section

variable {x : ConnectionInnerExclusive ω} {k : WaiterList} {w : ω}

theorem ConnectionInnerExclusive.awaitsConnected_waker {cx : ω} {a : Option (WaiterList × ω)}
    (ha : ∀ {k w}, a = some (k, w) → w = cx) (h : x.awaitsConnected cx a = some (k, w)) :
    w = cx := by
  unfold ConnectionInnerExclusive.awaitsConnected at h
  cases hs : x.state <;> simp only [hs, reduceCtorEq, Option.some.injEq, Prod.mk.injEq] at h
  · exact h.2.symm
  · exact ha h

theorem ConnectionInnerExclusive.awaits_waker {op : ConnectionOp ω}
    (h : x.awaits op = some (k, w)) : op.task = some w := by
  cases op with
  | pollStart cx native =>
    cases hs : x.state <;> simp_all [awaits, ConnectionOp.task]
  | pollAcceptInboundStream cx | pollAcceptInboundUniStream cx | pollReceiveDatagram cx =>
    refine congrArg some (awaitsConnected_waker (fun ha => ?_) h).symm
    split at ha <;> simp_all
  | pollSendDatagram cx | pollOpenOutboundStream cx =>
    exact congrArg some (awaitsConnected_waker (a := none) nofun h).symm
  | pollShutdown cx errorCode =>
    cases hs : x.state <;> simp_all [awaits, ConnectionOp.task]
  | pollEvent cx =>
    cases hs : x.state <;> simp_all [awaits, ConnectionOp.task]
  | _ => simp [awaits] at h

end

section

variable [WillWake ω] {s : ConnectionSys ω} {k : WaiterList} {w cx : ω}

theorem mem_boardAfter {board : WaiterList → List ω} (a : Option (WaiterList × ω))
    (h : w ∈ board k) : w ∈ boardAfter board a k := by
  cases a with
  | none => exact h
  | some p =>
    by_cases hk : k = p.1
    · subst hk
      simpa [boardAfter] using mem_registerWaker h
    · simpa [boardAfter, Function.update_of_ne hk] using h

/-- No waker leaves the board without being woken. -/
theorem ConnectionSys.step_keeps (l : ConnectionLabel ω) (h : w ∈ s.inner.waiters k) :
    w ∈ (s.step l).state.inner.waiters k ∨ w ∈ (s.step l).woken := by
  cases l with
  | call op =>
    left
    rw [step, (call_waits s op).1]
    exact mem_boardAfter _ h
  | event ev =>
    have hd := (dispatchEvent_drains s ev).1
    rw [step, hd.board, hd.woken]
    by_cases hk : k ∈ ev.drains
    · exact .inr (List.mem_flatMap.mpr ⟨k, hk, h⟩)
    · exact .inl (by simpa [hk] using h)

/-- A step that leaves a poll pending leaves a waker for its task on the board. -/
theorem ConnectionSys.step_registers {l : ConnectionLabel ω} (ht : l.task = some cx)
    (hp : (s.step l).result.Pending) : ∃ k, ∃ w ∈ (s.step l).state.inner.waiters k, Wakes w cx := by
  cases l with
  | event ev => cases ht
  | call op =>
    obtain ⟨hb, -, hpend⟩ := call_waits s op
    obtain ⟨⟨k, w⟩, ha⟩ := Option.isSome_iff_exists.mp (hpend.mp hp)
    -- the waker registered is the caller's own
    obtain rfl : w = cx := Option.some.inj
      ((ConnectionInnerExclusive.awaits_waker ha).symm.trans ht)
    obtain ⟨w', hw', hww⟩ := exists_wakes_registerWaker (s.inner.waiters k) w
    exact ⟨k, w', by rw [step, hb, ha]; simpa [boardAfter] using hw', hww⟩

/-- **A task that is owed a wake has a waker on the board**, along every run. -/
theorem Owed.exists_waker {ok : List (ConnectionStep ω) → ConnectionSys ω → ConnectionLabel ω → Prop}
    {tr : List (ConnectionStep ω)} (h : (connectionSystem ok).Run tr s) (ho : Owed tr cx) :
    ∃ k, ∃ w ∈ s.inner.waiters k, Wakes w cx := by
  refine h.invariant (I := fun tr s => Owed tr cx → ∃ k, ∃ w ∈ s.inner.waiters k, Wakes w cx)
    (fun _ _ => False.elim) (fun tr s l _ _ ih ho => ?_) ho
  rcases ho with ⟨ht, hp⟩ | ⟨ho, hwoken⟩
  · exact ConnectionSys.step_registers ht hp
  · obtain ⟨k, w, hw, hww⟩ := ih ho
    rcases ConnectionSys.step_keeps l hw with hkeep | hgone
    · exact ⟨k, w, hkeep, hww⟩
    · exact absurd hww (hwoken w hgone)

end

end MsquicAsync
