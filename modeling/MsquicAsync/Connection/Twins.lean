import MsquicAsync.Pool
import MsquicAsync.Connection.Send

/-!
# Connections that differ in their pools

Only the datagram sends and the reports that a datagram is done look at the pool
of a connection. So two connections that differ in their pools, and in the
addresses of the boxes MsQuic has, answer alike (`ConnectionTwins.step`), and a
call whose native call fails leaves the connection as it was
(`ConnectionSys.call_refused`).
-/

namespace MsquicAsync

open Runs

variable {ω : Type}

instance : Pooled (ConnectionInnerExclusive ω) where
  pool x := x.writePool
  withPool p x := { x with writePool := p }
  pool_withPool _ _ := rfl
  withPool_pool _ := rfl
  withPool_withPool _ _ _ := rfl

instance : NamesBox ConnectionCall where
  bare
    | .datagramSend buffers context result => .datagramSend buffers { context with ptr := 0 } result
    | c => c

/-! ## Calls that do not look at the pool -/

namespace Connection

theorem blind_pollStart [WillWake ω] (cx : ω) (native : NativeResult) :
    Blind fun x : ConnectionInnerExclusive ω => pollStart x cx native := by
  intro p x
  simp only [Pooled.withPool, pollStart]
  split
  · cases native <;> rfl
  · rfl
  · rfl
  · rfl
  · rfl

theorem alike_whenConnected [WillWake ω] {ε α : Type} {x y : ConnectionInnerExclusive ω}
    (h : Twins x y) (cx : ω) (notStarted : ε) (wrap : ConnectionError → ε)
    {r r' : ConnectionRan ω (Outcome (Poll (Except ε α)))} (hr : RanAlike r r') :
    RanAlike (whenConnected x cx notStarted wrap r) (whenConnected y cx notStarted wrap r') := by
  obtain ⟨q, rfl, hq⟩ := h.exists_eq
  unfold whenConnected
  simp only [Pooled.withPool]
  split
  · exact ⟨⟨rfl, h.left, hq⟩, rfl⟩
  · exact ⟨⟨rfl, h.left, hq⟩, rfl⟩
  · exact hr
  · exact ⟨⟨rfl, h.left, hq⟩, rfl⟩
  · exact ⟨⟨rfl, h.left, hq⟩, rfl⟩

theorem blind_pollShutdown [WillWake ω] (cx : ω) (errorCode : UInt64) :
    Blind fun x : ConnectionInnerExclusive ω => pollShutdown x cx errorCode := by
  intro p x
  simp only [Pooled.withPool, pollShutdown]
  split
  · rfl
  · rfl
  · rfl
  · rfl
  · split <;> rfl

theorem blind_shutdown (errorCode : UInt64) :
    Blind fun x : ConnectionInnerExclusive ω => shutdown x errorCode := by
  intro p x
  simp only [Pooled.withPool, shutdown]
  split <;> rfl

theorem blind_pollEvent [WillWake ω] (cx : ω) :
    Blind fun x : ConnectionInnerExclusive ω => pollEvent x cx := by
  intro p x
  simp only [Pooled.withPool, pollEvent]
  split
  · rfl
  · rfl
  · split <;> rfl
  · split <;> rfl
  · rfl

theorem blind_setSslkeylogFile (file box : Nat) (native : NativeResult) :
    Blind fun x : ConnectionInnerExclusive ω => setSslkeylogFile x file box native := by
  intro p x
  simp only [Pooled.withPool, setSslkeylogFile]
  split
  · rfl
  · split
    · cases native <;> rfl
    · rfl

theorem blind_connected (secrets : Nat → TlsSecrets) :
    Blind fun x : ConnectionInnerExclusive ω => handleEventConnected x secrets := by
  intro p x
  simp only [Pooled.withPool, handleEventConnected]
  split <;> rfl

theorem blind_peerStreamStarted (stream : Nat) (streamType : StreamType) :
    Blind fun x : ConnectionInnerExclusive ω => handleEventPeerStreamStarted x stream streamType := by
  intro p x
  cases streamType <;> rfl

theorem blind_pushAddrEvent (a b : Addr) (event : SocketAddr → SocketAddr → ConnectionEvent) :
    Blind fun x : ConnectionInnerExclusive ω => pushAddrEvent x a b event := by
  intro p x
  simp only [pushAddrEvent]
  split <;> rfl

theorem blind_notifyRemoteAddressAdded (address : Addr) (sequenceNumber : UInt64) :
    Blind fun x : ConnectionInnerExclusive ω =>
      handleEventNotifyRemoteAddressAdded x address sequenceNumber := by
  intro p x
  simp only [handleEventNotifyRemoteAddressAdded]
  split <;> rfl

/-! ## Datagrams -/

theorem alike_sendDatagramExclusive {x y : ConnectionInnerExclusive ω} (h : Twins x y)
    (buf : Bytes) (fresh fresh' : Nat) (native : NativeResult) :
    RanAlike (sendDatagramExclusive x buf fresh native)
      (sendDatagramExclusive y buf fresh' native) := by
  obtain ⟨q, rfl, hq⟩ := h.exists_eq
  have hl := WriteBuffer.empty_popPool_rest h.left fresh
  have hr := WriteBuffer.empty_popPool_rest hq fresh'
  obtain ⟨a, rest, hx⟩ := WriteBuffer.popPool_eq h.left fresh
  obtain ⟨a', rest', hx'⟩ := WriteBuffer.popPool_eq hq fresh'
  unfold sendDatagramExclusive
  simp only [Pooled.pool, Pooled.withPool] at hx hx' hl hr ⊢
  rw [hx] at hl
  rw [hx'] at hr
  simp only [hx, hx']
  cases native with
  | ok _ => exact ⟨⟨rfl, hl, hr⟩, rfl⟩
  | error e =>
    exact ⟨⟨rfl, List.forall_mem_cons.mpr ⟨WriteBuffer.empty_reset _, hl⟩,
      List.forall_mem_cons.mpr ⟨WriteBuffer.empty_reset _, hr⟩⟩, rfl⟩

theorem alike_checkedSendDatagram {x y : ConnectionInnerExclusive ω} (h : Twins x y)
    (buf : Bytes) (fresh fresh' : Nat) (native : NativeResult) :
    RanAlike (checkedSendDatagram x buf fresh native) (checkedSendDatagram y buf fresh' native) := by
  have hsend := alike_sendDatagramExclusive h buf fresh fresh' native
  obtain ⟨q, rfl, hq⟩ := h.exists_eq
  unfold checkedSendDatagram
  simp only [Pooled.withPool] at hsend ⊢
  split
  · exact ⟨⟨rfl, h.left, hq⟩, rfl⟩
  · split
    · exact ⟨⟨rfl, h.left, hq⟩, rfl⟩
    · exact hsend

theorem alike_sendDatagram {x y : ConnectionInnerExclusive ω} (h : Twins x y)
    (buf : Bytes) (fresh fresh' : Nat) (native : NativeResult) :
    RanAlike (sendDatagram x buf fresh native) (sendDatagram y buf fresh' native) := by
  have hsend := (alike_checkedSendDatagram h buf fresh fresh' native).lift Outcome.returned
  obtain ⟨q, rfl, hq⟩ := h.exists_eq
  unfold sendDatagram
  simp only [Pooled.withPool] at hsend ⊢
  split
  · exact ⟨⟨rfl, h.left, hq⟩, rfl⟩
  · exact ⟨⟨rfl, h.left, hq⟩, rfl⟩
  · exact hsend
  · exact ⟨⟨rfl, h.left, hq⟩, rfl⟩
  · exact ⟨⟨rfl, h.left, hq⟩, rfl⟩

theorem alike_datagramSendStateChanged {x y : ConnectionInnerExclusive ω} (h : Twins x y)
    (b b' : WriteBuffer) (state : DatagramSendState) :
    RanAlike (handleEventDatagramSendStateChanged x b state)
      (handleEventDatagramSendStateChanged y b' state) := by
  obtain ⟨q, rfl, hq⟩ := h.exists_eq
  have hback (b : WriteBuffer) {p : List WriteBuffer} (hp : ∀ c ∈ p, c.Empty) :
      ∀ c ∈ b.reset :: p, c.Empty :=
    List.forall_mem_cons.mpr ⟨WriteBuffer.empty_reset b, hp⟩
  cases state with
  | sent | canceled => exact ⟨⟨rfl, hback b h.left, hback b' hq⟩, rfl⟩
  | _ => exact ⟨⟨rfl, h.left, hq⟩, rfl⟩

end Connection

/-! ## Steps -/

/-- The connections differ in their pools, and in the addresses of the boxes MsQuic has. -/
structure ConnectionTwins (s t : ConnectionSys ω) : Prop where
  inner : Twins s.inner t.inner
  native : t.native.length = s.native.length

/-- The labels ask the same but for addresses: of a box that is new, and of one that MsQuic has
at the same place. -/
inductive ConnectionAlike (s t : ConnectionSys ω) :
    ConnectionLabel ω → ConnectionLabel ω → Prop where
  | same {l : ConnectionLabel ω} (hf : l.fresh? = none) (hc : l.completes? = none) :
      ConnectionAlike s t l l
  | pollSendDatagram (cx : ω) (buf : Bytes) (fresh fresh' : Nat) (native : NativeResult) :
      ConnectionAlike s t (.call (.pollSendDatagram cx buf fresh native))
        (.call (.pollSendDatagram cx buf fresh' native))
  | sendDatagram (buf : Bytes) (fresh fresh' : Nat) (native : NativeResult) :
      ConnectionAlike s t (.call (.sendDatagram buf fresh native))
        (.call (.sendDatagram buf fresh' native))
  | datagramSendStateChanged (state : DatagramSendState) {ptr ptr' : Nat}
      (h : WriteBuffer.place s.native ptr = WriteBuffer.place t.native ptr') :
      ConnectionAlike s t (.event (.datagramSendStateChanged ptr state))
        (.event (.datagramSendStateChanged ptr' state))

theorem connectionAlike_self (x : ConnectionSys ω) (l : ConnectionLabel ω) :
    ConnectionAlike x x l l := by
  cases l with
  | call op =>
    cases op with
    | pollSendDatagram => exact .pollSendDatagram ..
    | sendDatagram => exact .sendDatagram ..
    | _ => exact .same rfl rfl
  | event ev =>
    cases ev with
    | datagramSendStateChanged ptr state => exact .datagramSendStateChanged state rfl
    | _ => exact .same rfl rfl

theorem length_acceptedDatagrams_bare (calls : List ConnectionCall) :
    (acceptedDatagrams (calls.map NamesBox.bare)).length = (acceptedDatagrams calls).length := by
  induction calls with
  | nil => rfl
  | cons c calls ih =>
    simp only [acceptedDatagrams, List.map_cons, List.filterMap_cons] at ih ⊢
    cases c with
    | datagramSend buffers context result =>
      cases result with
      | ok _ => exact congrArg (· + 1) ih
      | error e => exact ih
    | _ => exact ih

namespace ConnectionTwins

variable {s t : ConnectionSys ω}

theorem after (h : ConnectionTwins s t) {ρ : Type} {r r' : ConnectionRan ω ρ}
    (hr : RanAlike r r') (g : ρ → ConnectionRes) :
    ConnectionTwins (s.after r g).state (t.after r' g).state ∧
      (t.after r' g).toOut.bare = (s.after r g).toOut.bare := by
  refine ⟨⟨hr.state, ?_⟩, ?_⟩
  · show (t.native ++ acceptedDatagrams r'.calls).length =
      (s.native ++ acceptedDatagrams r.calls).length
    rw [List.length_append, List.length_append, h.native, ← length_acceptedDatagrams_bare r'.calls,
      hr.calls, length_acceptedDatagrams_bare]
  · simp only [Out.bare, ConnectionSys.after_result, ConnectionSys.after_woken,
      ConnectionSys.after_calls, hr.result, hr.woken, hr.calls]

theorem blind (h : ConnectionTwins s t) {ρ : Type}
    {f : ConnectionInnerExclusive ω → ConnectionRan ω ρ} (hf : Blind f) (g : ρ → ConnectionRes) :
    ConnectionTwins (s.after (f s.inner) g).state (t.after (f t.inner) g).state ∧
      (t.after (f t.inner) g).toOut.bare = (s.after (f s.inner) g).toOut.bare :=
  h.after (hf.alike h.inner) g

/-- What a connection is asked under the contract its twin may be asked. -/
theorem follow (h : ConnectionTwins s t)
    (hn : (t.native.map WriteBuffer.ptr).Nodup) {l : ConnectionLabel ω} (hl : s.SendContract l)
    (held : List Nat) :
    ∃ l', ConnectionAlike s t l l' ∧ (∀ a, l'.fresh? = some a → a ∉ held) ∧ t.SendContract l' := by
  obtain ⟨fresh', hfresh⟩ := exists_fresh held
  have hnew {a : Nat} (ha : some fresh' = some a) : a ∉ held := Option.some.inj ha ▸ hfresh
  have hsame (hf : l.fresh? = none) (hc : l.completes? = none) :
      ∃ l', ConnectionAlike s t l l' ∧ (∀ a, l'.fresh? = some a → a ∉ held) ∧
        t.SendContract l' := by
    refine ⟨l, .same hf hc, fun a ha => ?_, fun ptr hp => ?_⟩
    · cases hf.symm.trans ha
    · cases hc.symm.trans hp
  have hdone (state : DatagramSendState) {ptr : Nat} (hp : ∃ b ∈ s.native, b.ptr = ptr)
      (hc : ∀ ptr', (.event (.datagramSendStateChanged ptr' state) :
        ConnectionLabel ω).completes? = some ptr') :
      ∃ l', ConnectionAlike s t (.event (.datagramSendStateChanged ptr state)) l' ∧
        (∀ a, l'.fresh? = some a → a ∉ held) ∧ t.SendContract l' := by
    obtain ⟨ptr', hmem, hplace⟩ := WriteBuffer.exists_place h.native hn hp
    refine ⟨_, .datagramSendStateChanged state hplace, (fun a ha => by cases ha), fun q hq => ?_⟩
    exact Option.some.inj ((hc ptr').symm.trans hq) ▸ hmem
  cases l with
  | call op =>
    cases op with
    | pollSendDatagram => exact ⟨_, .pollSendDatagram .., fun a => hnew, fun ptr hp => by cases hp⟩
    | sendDatagram => exact ⟨_, .sendDatagram .., fun a => hnew, fun ptr hp => by cases hp⟩
    | _ => exact hsame rfl rfl
  | event ev =>
    cases ev with
    | datagramSendStateChanged ptr state =>
      cases state with
      | sent => exact hdone .sent (hl ptr rfl) fun _ => rfl
      | canceled => exact hdone .canceled (hl ptr rfl) fun _ => rfl
      | _ => exact hsame rfl rfl
    | _ => exact hsame rfl rfl

variable [WillWake ω]

theorem call (h : ConnectionTwins s t) {op : ConnectionOp ω} (hf : op.fresh? = none) :
    ConnectionTwins (s.call op).state (t.call op).state ∧
      (t.call op).toOut.bare = (s.call op).toOut.bare := by
  cases op with
  | pollStart cx native => exact h.blind (Connection.blind_pollStart cx native) _
  | pollAcceptInboundStream cx | pollAcceptInboundUniStream cx | pollReceiveDatagram cx =>
    -- behind the gate it takes the front of a queue, or waits
    refine h.after (Connection.alike_whenConnected h.inner cx _ _ ?_) _
    obtain ⟨q, hq, he⟩ := h.inner.exists_eq
    rw [hq]
    simp only [Pooled.withPool]
    split <;> exact ⟨⟨rfl, h.inner.left, he⟩, rfl⟩
  | pollSendDatagram | sendDatagram => cases hf
  | pollShutdown cx errorCode => exact h.blind (Connection.blind_pollShutdown cx errorCode) _
  | shutdown errorCode => exact h.blind (Connection.blind_shutdown errorCode) _
  | pollEvent cx => exact h.blind (Connection.blind_pollEvent cx) _
  | pollOpenOutboundStream cx =>
    refine h.after (Connection.alike_whenConnected h.inner cx _ _ ?_) _
    exact ⟨h.inner, rfl⟩
  | setSslkeylogFile file box native =>
    exact h.blind (Connection.blind_setSslkeylogFile file box native) _

omit [WillWake ω] in
theorem event (h : ConnectionTwins s t) {ev : MsquicConnectionEvent}
    (hc : (.event ev : ConnectionLabel ω).completes? = none) :
    ConnectionTwins (s.dispatchEvent ev).state (t.dispatchEvent ev).state ∧
      (t.dispatchEvent ev).toOut.bare = (s.dispatchEvent ev).toOut.bare := by
  cases ev with
  | connected secrets => exact h.blind (Connection.blind_connected secrets) _
  | shutdownInitiatedByTransport status errorCode =>
    exact h.blind
      (f := fun x => Connection.handleEventShutdownInitiatedByTransport x status errorCode)
      (fun _ _ => rfl) _
  | shutdownInitiatedByPeer errorCode =>
    exact h.blind (f := fun x => Connection.handleEventShutdownInitiatedByPeer x errorCode)
      (fun _ _ => rfl) _
  | shutdownComplete =>
    exact h.blind (f := Connection.handleEventShutdownComplete) (fun _ _ => rfl) _
  | peerStreamStarted stream streamType =>
    exact h.blind (Connection.blind_peerStreamStarted stream streamType) _
  | datagramStateChanged sendEnabled maxSendLength =>
    exact h.blind
      (f := fun x => Connection.handleEventDatagramStateChanged x sendEnabled maxSendLength)
      (fun _ _ => rfl) _
  | datagramReceived buffer =>
    exact h.blind (f := fun x => Connection.handleEventDatagramReceived x buffer)
      (fun _ _ => rfl) _
  | datagramSendStateChanged clientContext state =>
    cases state with
    | sent | canceled => cases hc
    | _ => exact ⟨h, rfl⟩
  | localAddressesChanged added removed lostPaths =>
    exact h.blind
      (f := fun x => Connection.handleEventLocalAddressesChanged x added removed lostPaths)
      (fun _ _ => rfl) _
  | notifyObservedAddress | pathValidated | pathAdded | pathRemoved | pathStatusChanged =>
    exact h.blind (Connection.blind_pushAddrEvent _ _ _) _
  | notifyRemoteAddressAdded address sequenceNumber =>
    exact h.blind (Connection.blind_notifyRemoteAddressAdded address sequenceNumber) _
  | notifyRemoteAddressRemoved sequenceNumber =>
    exact h.blind
      (f := fun x => Connection.handleEventNotifyRemoteAddressRemoved x sequenceNumber)
      (fun _ _ => rfl) _
  | peerCertificateReceived | streamsAvailable | other => exact ⟨h, rfl⟩

/-- **Twins answer alike** to labels that ask alike, and stay twins. -/
theorem step (h : ConnectionTwins s t) {l l' : ConnectionLabel ω} (hl : ConnectionAlike s t l l') :
    ConnectionTwins (s.step l).state (t.step l').state ∧
      (t.step l').toOut.bare = (s.step l).toOut.bare := by
  cases hl with
  | same hf hc =>
    cases l with
    | call op => exact h.call hf
    | event ev => exact h.event hc
  | pollSendDatagram cx buf fresh fresh' native =>
    exact h.after (Connection.alike_whenConnected h.inner cx _ _
      ((Connection.alike_checkedSendDatagram h.inner buf fresh fresh' native).lift _)) _
  | sendDatagram buf fresh fresh' native =>
    exact h.after (Connection.alike_sendDatagram h.inner buf fresh fresh' native) _
  | @datagramSendStateChanged state ptr ptr' hplace =>
    simp only [ConnectionSys.step, ConnectionSys.dispatchEvent]
    rcases WriteBuffer.fromRaw_alike h.native hplace with
      ⟨hx, hy⟩ | ⟨b, b', rest, rest', hx, hy, hlen⟩
    · simp only [hx, hy]
      cases state <;> exact ⟨h, rfl⟩
    · have h' : ConnectionTwins { s with native := rest } { t with native := rest' } :=
        ⟨h.inner, hlen⟩
      simp only [hx, hy]
      cases state with
      | sent | canceled =>
        exact h'.after (Connection.alike_datagramSendStateChanged h.inner b b' _) _
      | _ => exact ⟨h, rfl⟩

end ConnectionTwins

/-! ## Calls that MsQuic refuses -/

/-- The error of a native call that has failed. -/
def ConnectionCall.failed? : ConnectionCall → Option Status
  | start (.error e) | datagramSend _ _ (.error e) | setTlsSecrets _ (.error e) => some e
  | _ => none

/-- The start and the datagram sends. -/
def ConnectionOp.StartsOrSends : ConnectionOp ω → Prop
  | pollStart _ _ | pollSendDatagram _ _ _ _ | sendDatagram _ _ _ => True
  | _ => False

/-- The call answers with the error of a native call. -/
def ConnectionRes.FailsWith (e : Status) : ConnectionRes → Prop
  | start r => r = .returned (.ready (.error (.otherError e)))
  | pollSendDatagram r => r = .returned (.ready (.error (.otherError e)))
  | sendDatagram r => r = .returned (.error (.otherError e))
  | _ => False

namespace Connection

variable {x : ConnectionInnerExclusive ω} {native : NativeResult} {c : ConnectionCall} {e : Status}

theorem undone_pollStart [WillWake ω] {cx : ω} (hc : c ∈ (pollStart x cx native).calls)
    (hf : c.failed? = some e) :
    Undone x c (.returned (.ready (.error (.otherError e)))) (pollStart x cx native) := by
  revert hc
  unfold pollStart
  split
  · cases native with
    | error e' =>
      intro hc
      obtain ⟨rfl, rfl⟩ := failed_eq ConnectionCall.failed? rfl hc hf
      exact ⟨⟨_, .same, rfl⟩, rfl⟩
    | ok _ => exact fun hc => absurd hf (not_failed ConnectionCall.failed? rfl hc)
  all_goals exact fun hc => by cases hc

theorem undone_checkedSendDatagram {buf : Bytes} {fresh : Nat} (hx : ∀ b ∈ x.writePool, b.Empty)
    (hc : c ∈ (checkedSendDatagram x buf fresh native).calls) (hf : c.failed? = some e) :
    Undone x c (.error (.otherError e)) (checkedSendDatagram x buf fresh native) := by
  have hptr : ((WriteBuffer.popPool x.writePool fresh).1.putZerocopy buf).1.getBuffers.1.ptr =
      (WriteBuffer.popPool x.writePool fresh).1.ptr := WriteBuffer.getBuffers_ptr _
  revert hc
  unfold checkedSendDatagram
  split
  · exact fun hc => by cases hc
  · split
    · exact fun hc => by cases hc
    · cases native with
      | error e' =>
        intro hc
        obtain ⟨rfl, rfl⟩ := failed_eq ConnectionCall.failed? rfl hc hf
        exact ⟨⟨_, poolGrows_refused hptr hx, rfl⟩, rfl⟩
      | ok _ => exact fun hc => absurd hf (not_failed ConnectionCall.failed? rfl hc)

theorem undone_whenConnected [WillWake ω] {ε α : Type} {cx : ω} {notStarted : ε}
    {wrap : ConnectionError → ε} {r : ConnectionRan ω (Outcome (Poll (Except ε α)))}
    {answer : Outcome (Poll (Except ε α))}
    (hc : c ∈ (whenConnected x cx notStarted wrap r).calls)
    (hr : c ∈ r.calls → Undone x c answer r) :
    Undone x c answer (whenConnected x cx notStarted wrap r) := by
  revert hc
  unfold whenConnected
  split
  case h_3 => exact hr
  all_goals exact fun hc => by cases hc

theorem undone_sendDatagram {buf : Bytes} {fresh : Nat} (hx : ∀ b ∈ x.writePool, b.Empty)
    (hc : c ∈ (sendDatagram x buf fresh native).calls) (hf : c.failed? = some e) :
    Undone x c (.returned (.error (.otherError e))) (sendDatagram x buf fresh native) := by
  revert hc
  unfold sendDatagram
  split
  case h_3 => exact fun hc => (undone_checkedSendDatagram hx hc hf).lift _
  all_goals exact fun hc => by cases hc

end Connection

/-- `t` is `s`, but its pool may have one more empty box. -/
def ConnectionSys.SameButPool (s t : ConnectionSys ω) : Prop :=
  ∃ p, PoolGrows s.inner.writePool p ∧ t = { s with inner := { s.inner with writePool := p } }

/-- The call has done nothing but a native call that has failed. -/
structure ConnectionRefused (s : ConnectionSys ω) (c : ConnectionCall) (e : Status)
    (r : Ran (ConnectionSys ω) ω ConnectionCall ConnectionRes) : Prop where
  state : s.SameButPool r.state
  result : r.result.FailsWith e
  woken : r.woken = []
  calls : r.calls = [c]

theorem ConnectionCall.acceptedDatagrams_failed {c : ConnectionCall} {e : Status}
    (h : c.failed? = some e) : acceptedDatagrams [c] = [] := by
  cases c with
  | datagramSend buffers context result =>
    cases result with
    | error e' => rfl
    | ok _ => cases h
  | _ => rfl

theorem ConnectionRefused.of_undone {s : ConnectionSys ω} {ρ : Type} {c : ConnectionCall}
    {e : Status} {answer : ρ} {r : ConnectionRan ω ρ} {g : ρ → ConnectionRes}
    (h : Undone s.inner c answer r) (hf : c.failed? = some e) (hg : (g answer).FailsWith e) :
    ConnectionRefused s c e (s.after r g) := by
  obtain ⟨⟨p, hp, hs⟩, ho⟩ := h
  have hcalls : r.calls = [c] := congrArg Out.calls ho
  have hresult : r.result = answer := congrArg Out.result ho
  refine ⟨⟨p, hp, ?_⟩, ?_, congrArg Out.woken ho, hcalls⟩
  · show (⟨r.state, s.native ++ acceptedDatagrams r.calls⟩ : ConnectionSys ω) = _
    rw [hs, hcalls, ConnectionCall.acceptedDatagrams_failed hf, List.append_nil]
    rfl
  · rw [ConnectionSys.after_result, hresult]
    exact hg

/-- **A start or a send whose native call fails** answers with its error, and has done nothing
else. -/
theorem ConnectionSys.call_refused [WillWake ω] {s : ConnectionSys ω}
    (hx : ∀ b ∈ s.inner.writePool, b.Empty) {op : ConnectionOp ω} (hop : op.StartsOrSends)
    {c : ConnectionCall} {e : Status} (hc : c ∈ (s.call op).calls) (hf : c.failed? = some e) :
    ConnectionRefused s c e (s.call op) := by
  cases op with
  | pollStart => exact .of_undone (Connection.undone_pollStart hc hf) hf rfl
  | pollSendDatagram =>
    exact .of_undone (Connection.undone_whenConnected hc fun hc =>
      (Connection.undone_checkedSendDatagram hx hc hf).lift _) hf rfl
  | sendDatagram => exact .of_undone (Connection.undone_sendDatagram hx hc hf) hf rfl
  | _ => exact hop.elim

end MsquicAsync
