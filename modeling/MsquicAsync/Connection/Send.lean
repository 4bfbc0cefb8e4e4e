import MsquicAsync.Send
import MsquicAsync.Connection.Lifecycle

/-!
# The write buffers of a connection

A datagram send fills a box without a copy. The report that a datagram was sent
or canceled gives its box back; the other reports about it, and every other
step, leave the boxes alone (`ConnectionSys.step_boxes`).
-/

namespace MsquicAsync

open Runs Connection

variable {ω : Type}

/-! ## What a step sends and completes -/

def ConnectionCall.sent? : ConnectionCall → Option Sent
  | datagramSend buffers context result => some ⟨buffers, context, result⟩
  | _ => none

/-- The datagram sends among the calls. -/
def datagramSends (calls : List ConnectionCall) : List Sent :=
  calls.filterMap ConnectionCall.sent?

def ConnectionOp.pieces? : ConnectionOp ω → Option (List Bytes)
  | pollSendDatagram _ buf _ _ | sendDatagram buf _ _ => some [buf]
  | _ => none

def ConnectionOp.fresh? : ConnectionOp ω → Option Nat
  | pollSendDatagram _ _ fresh _ | sendDatagram _ fresh _ => some fresh
  | _ => none

namespace ConnectionLabel

def pieces? : ConnectionLabel ω → Option (List Bytes)
  | call op => op.pieces?
  | event _ => none

def fresh? : ConnectionLabel ω → Option Nat
  | call op => op.fresh?
  | event _ => none

/-- The context of a datagram that was sent or canceled. -/
def completes? : ConnectionLabel ω → Option Nat
  | event (.datagramSendStateChanged clientContext .sent)
  | event (.datagramSendStateChanged clientContext .canceled) => some clientContext
  | _ => none

end ConnectionLabel

def ConnectionSys.boxes (s : ConnectionSys ω) : Boxes := ⟨s.inner.writePool, s.native⟩

theorem acceptedDatagrams_eq_nil {calls : List ConnectionCall} (h : datagramSends calls = []) :
    acceptedDatagrams calls = [] := by
  unfold datagramSends at h
  unfold acceptedDatagrams
  rw [List.filterMap_eq_nil_iff] at h ⊢
  intro c hc
  have hs := h c hc
  cases c with
  | datagramSend => cases hs
  | _ => rfl

/-! ## Datagrams -/

/-- What a datagram send does to the boxes of its connection. -/
structure DatagramStep {ρ : Type} (x : ConnectionInnerExclusive ω) (buf : Bytes) (fresh : Nat)
    (r : ConnectionRan ω ρ) : Prop where
  boxes : ∀ native, BoxStep ⟨x.writePool, native⟩ (some fresh) (datagramSends r.calls) none
    ⟨r.state.writePool, native ++ acceptedDatagrams r.calls⟩
  payload : (∀ b ∈ x.writePool, b.Empty) → ∀ m ∈ datagramSends r.calls, m.payload = buf

namespace Connection

variable {x : ConnectionInnerExclusive ω} {buf : Bytes} {fresh : Nat} {native : NativeResult}

theorem datagramStep_sendDatagramExclusive (h : buf.length < 2 ^ 32) :
    DatagramStep x buf fresh (sendDatagramExclusive x buf fresh native) := by
  have hfill := WriteBuffer.fills_putZerocopy h
  refine ⟨fun boxes => ?_, fun hx m hm => ?_⟩
  · cases native with
    | ok _ => exact .accepted (WriteBuffer.getBuffers_ptr _) rfl
    | error e =>
      show BoxStep _ _ _ none ⟨_, boxes ++ []⟩
      rw [List.append_nil]
      exact .refused (WriteBuffer.getBuffers_ptr _) rfl
  · have hpayload := hfill.payload _ (WriteBuffer.empty_popPool hx fresh)
    cases native with
    | ok _ =>
      rw [List.mem_singleton.mp hm]
      exact hpayload
    | error e =>
      rw [List.mem_singleton.mp hm]
      exact hpayload

theorem datagramStep_idle {ρ : Type} {y : ConnectionInnerExclusive ω} {r : ρ}
    (h : y.writePool = x.writePool) :
    DatagramStep x buf fresh ({ state := y, result := r } : ConnectionRan ω ρ) := by
  refine ⟨fun boxes => ?_, fun _ m hm => by cases hm⟩
  show BoxStep _ _ _ none ⟨_, boxes ++ []⟩
  rw [List.append_nil, h]
  exact .idle _

/-- The limit on the length of a datagram keeps it far below `2 ^ 32` bytes. -/
theorem datagramStep_checkedSendDatagram :
    DatagramStep x buf fresh (checkedSendDatagram x buf fresh native) := by
  unfold checkedSendDatagram
  split
  · exact datagramStep_idle rfl
  · split
    · exact datagramStep_idle rfl
    · next hlen =>
      have hmax := x.dgramMaxSendLength.toNat_lt
      exact datagramStep_sendDatagramExclusive (by omega)

end Connection

theorem DatagramStep.lift {ρ ρ' : Type} {x : ConnectionInnerExclusive ω} {buf : Bytes} {fresh : Nat}
    {r : ConnectionRan ω ρ} (h : DatagramStep x buf fresh r) (g : ρ → ρ') :
    DatagramStep x buf fresh (r.lift id g) :=
  ⟨h.boxes, h.payload⟩

/-! ## The steps -/

/-- A critical section that leaves the pool alone and sends nothing. -/
structure Connection.Quiet {ρ : Type} (x : ConnectionInnerExclusive ω) (r : ConnectionRan ω ρ) :
    Prop where
  pool : r.state.writePool = x.writePool
  sends : datagramSends r.calls = []

namespace Connection

variable {x : ConnectionInnerExclusive ω}

theorem quiet_whenConnected [WillWake ω] {ε α : Type} {cx : ω} {notStarted : ε}
    {wrap : ConnectionError → ε} {body : ConnectionRan ω (Outcome (Poll (Except ε α)))}
    (h : Quiet x body) : Quiet x (whenConnected x cx notStarted wrap body) := by
  unfold whenConnected
  split
  · exact ⟨rfl, rfl⟩
  · exact ⟨rfl, rfl⟩
  · exact h
  · exact ⟨rfl, rfl⟩
  · exact ⟨rfl, rfl⟩

theorem quiet_pushAddrEvent {a b : Addr} {event : SocketAddr → SocketAddr → ConnectionEvent} :
    Quiet x (pushAddrEvent x a b event) := by
  unfold pushAddrEvent
  split <;> exact ⟨rfl, rfl⟩

end Connection

namespace ConnectionSys

variable {ρ : Type} {s : ConnectionSys ω}

theorem Quiet.boxStep {r : ConnectionRan ω ρ} {g : ρ → ConnectionRes} (h : Quiet s.inner r)
    (fresh : Option Nat) :
    BoxStep s.boxes fresh (datagramSends (s.after r g).calls) none (s.after r g).state.boxes := by
  have hb : (s.after r g).state.boxes = s.boxes := by
    show Boxes.mk r.state.writePool (s.native ++ acceptedDatagrams r.calls) = s.boxes
    rw [h.pool, acceptedDatagrams_eq_nil h.sends, List.append_nil, boxes]
  rw [after_calls, h.sends, hb]
  exact .idle _

theorem boxStep_call [WillWake ω] {op : ConnectionOp ω} (h : op.pieces? = none) :
    BoxStep s.boxes none (datagramSends (s.call op).calls) none (s.call op).state.boxes ∧
      datagramSends (s.call op).calls = [] := by
  have hquiet {ρ : Type} {r : ConnectionRan ω ρ} {g : ρ → ConnectionRes} (hq : Quiet s.inner r) :
      BoxStep s.boxes none (datagramSends (s.after r g).calls) none (s.after r g).state.boxes ∧
        datagramSends (s.after r g).calls = [] :=
    ⟨Quiet.boxStep hq _, hq.sends⟩
  cases op with
  | pollSendDatagram | sendDatagram => cases h
  | pollStart cx native =>
    refine hquiet ?_
    unfold Connection.pollStart
    split
    · cases native <;> exact ⟨rfl, rfl⟩
    all_goals exact ⟨rfl, rfl⟩
  | pollAcceptInboundStream cx =>
    exact hquiet (quiet_whenConnected (by split <;> exact ⟨rfl, rfl⟩))
  | pollAcceptInboundUniStream cx =>
    exact hquiet (quiet_whenConnected (by split <;> exact ⟨rfl, rfl⟩))
  | pollReceiveDatagram cx =>
    exact hquiet (quiet_whenConnected (by split <;> exact ⟨rfl, rfl⟩))
  | pollOpenOutboundStream cx => exact hquiet (quiet_whenConnected ⟨rfl, rfl⟩)
  | pollShutdown cx errorCode =>
    refine hquiet ?_
    unfold Connection.pollShutdown
    simp only
    split
    · exact ⟨rfl, rfl⟩
    · exact ⟨rfl, rfl⟩
    · exact ⟨rfl, rfl⟩
    · exact ⟨rfl, rfl⟩
    · split <;> exact ⟨rfl, rfl⟩
  | shutdown errorCode =>
    refine hquiet ?_
    unfold Connection.shutdown
    split <;> exact ⟨rfl, rfl⟩
  | pollEvent cx =>
    refine hquiet ?_
    unfold Connection.pollEvent
    split
    · exact ⟨rfl, rfl⟩
    · exact ⟨rfl, rfl⟩
    · split <;> exact ⟨rfl, rfl⟩
    · split <;> exact ⟨rfl, rfl⟩
    · exact ⟨rfl, rfl⟩
  | setSslkeylogFile file box native =>
    refine hquiet ?_
    unfold Connection.setSslkeylogFile
    split
    · exact ⟨rfl, rfl⟩
    · split
      · cases native <;> exact ⟨rfl, rfl⟩
      · exact ⟨rfl, rfl⟩

theorem datagramStep_call [WillWake ω] {op : ConnectionOp ω} {pieces : List Bytes}
    (h : op.pieces? = some pieces) :
    BoxStep s.boxes op.fresh? (datagramSends (s.call op).calls) none (s.call op).state.boxes ∧
      ((∀ b ∈ s.inner.writePool, b.Empty) → ∀ m ∈ datagramSends (s.call op).calls,
        m.payload = pieces.flatten) := by
  cases op with
  | pollSendDatagram cx buf fresh native =>
    cases h
    have hs : DatagramStep s.inner buf fresh
        (Connection.pollSendDatagram s.inner cx buf fresh native) := by
      unfold Connection.pollSendDatagram whenConnected
      split
      · exact datagramStep_idle rfl
      · exact datagramStep_idle rfl
      · exact datagramStep_checkedSendDatagram.lift _
      · exact datagramStep_idle rfl
      · exact datagramStep_idle rfl
    rw [List.flatten_singleton]
    exact ⟨hs.boxes _, hs.payload⟩
  | sendDatagram buf fresh native =>
    cases h
    have hs : DatagramStep s.inner buf fresh (Connection.sendDatagram s.inner buf fresh native) := by
      unfold Connection.sendDatagram
      split
      · exact datagramStep_idle rfl
      · exact datagramStep_idle rfl
      · exact datagramStep_checkedSendDatagram.lift _
      · exact datagramStep_idle rfl
      · exact datagramStep_idle rfl
    rw [List.flatten_singleton]
    exact ⟨hs.boxes _, hs.payload⟩
  | _ => cases h

theorem boxStep_event {ev : MsquicConnectionEvent}
    (h : (.event ev : ConnectionLabel ω).completes? = none) :
    BoxStep s.boxes none (datagramSends (s.dispatchEvent ev).calls) none
        (s.dispatchEvent ev).state.boxes ∧
      datagramSends (s.dispatchEvent ev).calls = [] := by
  have hquiet {ρ : Type} {r : ConnectionRan ω ρ} {g : ρ → ConnectionRes} (hq : Quiet s.inner r) :
      BoxStep s.boxes none (datagramSends (s.after r g).calls) none (s.after r g).state.boxes ∧
        datagramSends (s.after r g).calls = [] :=
    ⟨Quiet.boxStep hq _, hq.sends⟩
  cases ev with
  | datagramSendStateChanged clientContext state =>
    cases state with
    | sent | canceled => cases h
    | _ => exact ⟨.idle _, rfl⟩
  | peerCertificateReceived | streamsAvailable | other => exact ⟨.idle _, rfl⟩
  | connected secrets =>
    refine hquiet ⟨?_, ?_⟩
    · unfold Connection.handleEventConnected
      simp only
      split <;> rfl
    · unfold Connection.handleEventConnected
      simp only
      split
      · simp only [datagramSends, List.filterMap_cons, ConnectionCall.sent?]
        rw [List.filterMap_eq_nil_iff]
        intro c hc
        obtain ⟨line, -, rfl⟩ := List.mem_map.mp hc
        rfl
      · rfl
  | peerStreamStarted stream streamType => cases streamType <;> exact hquiet ⟨rfl, rfl⟩
  | notifyRemoteAddressAdded address sequenceNumber =>
    refine hquiet ?_
    unfold Connection.handleEventNotifyRemoteAddressAdded
    split <;> exact ⟨rfl, rfl⟩
  | notifyObservedAddress | pathValidated | pathAdded | pathRemoved | pathStatusChanged =>
    exact hquiet quiet_pushAddrEvent
  | _ => exact hquiet ⟨rfl, rfl⟩

/-- A report that a datagram was sent or canceled names a box that MsQuic has. -/
def SendContract (s : ConnectionSys ω) (l : ConnectionLabel ω) : Prop :=
  ∀ ptr, l.completes? = some ptr → ∃ b ∈ s.native, b.ptr = ptr

/-- **What a step of a connection does to its boxes, and what it sends.** -/
theorem step_boxes [WillWake ω] {l : ConnectionLabel ω} (h : s.SendContract l) :
    BoxStep s.boxes l.fresh? (datagramSends (s.step l).calls) l.completes? (s.step l).state.boxes ∧
      ((∀ b ∈ s.inner.writePool, b.Empty) →
        SendExact l.pieces? (datagramSends (s.step l).calls) none) := by
  cases l with
  | call op =>
    cases hp : op.pieces? with
    | none =>
      obtain ⟨hb, hs⟩ := boxStep_call (s := s) hp
      have hf : op.fresh? = none := by cases op <;> first | rfl | cases hp
      refine ⟨?_, fun _ => ?_⟩
      · show BoxStep _ op.fresh? _ none _
        rw [hf]
        exact hb
      · show SendExact _ (datagramSends (s.call op).calls) _
        rw [hs]
        exact sendExact_none _
    | some pieces =>
      obtain ⟨hb, hpay⟩ := datagramStep_call (s := s) hp
      exact ⟨hb, fun hx => ⟨fun m hm => ⟨pieces, hp, hpay hx m hm⟩, fun n hn => by cases hn⟩⟩
  | event ev =>
    cases hc : (ConnectionLabel.event ev : ConnectionLabel ω).completes? with
    | none =>
      obtain ⟨hb, hs⟩ := boxStep_event (s := s) hc
      refine ⟨hb, fun _ => ?_⟩
      show SendExact _ (datagramSends (s.dispatchEvent ev).calls) _
      rw [hs]
      exact sendExact_none _
    | some ptr =>
      obtain ⟨b, native, hf⟩ := WriteBuffer.exists_fromRaw (h ptr hc)
      cases ev with
      | datagramSendStateChanged clientContext state =>
        cases state with
        | sent | canceled =>
          cases hc
          refine ⟨?_, fun _ => ?_⟩
          · simp only [step, dispatchEvent, hf]
            show BoxStep _ _ [] _ ⟨b.reset :: s.inner.writePool, native ++ []⟩
            rw [List.append_nil]
            exact .completed hf
          · simp only [step, dispatchEvent, hf]
            exact sendExact_none _
        | _ => cases hc
      | _ => cases hc

end ConnectionSys

end MsquicAsync
