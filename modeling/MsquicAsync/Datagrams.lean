import MsquicAsync.Lib.Beside
import MsquicAsync.Connection.Inbound
import MsquicAsync.Connection.Send

/-!
# Datagrams, end to end

Two connections side by side that send each other datagrams. MsQuic may lose a
datagram that it took or hand it over later than others, but it hands over none
that the other side has not sent, and none twice (`Carried`). In every
interleaving the datagrams that one application is handed are then some of those
whose sends the other was told had succeeded, unchanged and each at most as often
as it was sent (`datagrams_carried`).
-/

namespace MsquicAsync

open Runs System

variable {ω : Type}

/-! ## What is sent -/

/-- The send is answered with success. -/
def ConnectionRes.SentOk : ConnectionRes → Bool
  | pollSendDatagram (.returned (.ready (.ok ()))) | sendDatagram (.returned (.ok ())) => true
  | _ => false

/-- The datagrams MsQuic takes of a step's calls. -/
def takenDatagrams (calls : List ConnectionCall) : List Bytes :=
  ((datagramSends calls).filter fun m => !m.refused).map Sent.payload

/-- The datagram of a send that is answered with success. -/
def ConnectionLabel.sendsOk (l : ConnectionLabel ω) (r : ConnectionRes) : List Bytes :=
  match l.pieces? with
  | some pieces => if r.SentOk then [pieces.flatten] else []
  | none => []

/-- The datagrams MsQuic has taken. -/
def datagramsTaken (tr : List (ConnectionStep ω)) : List Bytes :=
  tr.flatMap fun e => takenDatagrams e.out.calls

/-- The datagrams that the application was told were sent. -/
def datagramsSent (tr : List (ConnectionStep ω)) : List Bytes :=
  tr.flatMap fun e => e.label.sendsOk e.out.result

section

variable {x : ConnectionInnerExclusive ω} {buf : Bytes} {fresh : Nat} {native : NativeResult}

/-- A datagram is sent if it passes the checks and MsQuic takes it, and then the answer says so. -/
theorem Connection.takenDatagrams_checked (hx : ∀ b ∈ x.writePool, b.Empty) :
    takenDatagrams (checkedSendDatagram x buf fresh native).calls =
      if (checkedSendDatagram x buf fresh native).result = .ok () then [buf] else [] := by
  have hstep : DatagramStep x buf fresh (checkedSendDatagram x buf fresh native) :=
    datagramStep_checkedSendDatagram
  have hpayload := hstep.payload hx
  unfold checkedSendDatagram at hpayload ⊢
  split
  · rfl
  next henabled =>
  split
  · rfl
  next hlen =>
  rw [if_neg henabled, if_neg hlen] at hpayload
  unfold sendDatagramExclusive at hpayload ⊢
  cases native with
  | ok _ =>
    have hm := hpayload _ List.mem_cons_self
    exact congrArg (fun b => [b]) hm
  | error e => rfl

variable [WillWake ω] {s : ConnectionSys ω}

theorem ConnectionSys.call_datagram {op : ConnectionOp ω} {pieces : List Bytes}
    (hp : op.pieces? = some pieces) :
    ((s.call op).calls = [] ∧ (s.call op).result.SentOk = false) ∨
      ∃ buf fresh native, pieces = [buf] ∧
        (s.call op).calls = (Connection.checkedSendDatagram s.inner buf fresh native).calls ∧
        ((s.call op).result.SentOk = true ↔
          (Connection.checkedSendDatagram s.inner buf fresh native).result = .ok ()) := by
  cases op with
  | pollSendDatagram cx buf fresh native =>
    simp only [call, after_calls, after_result, Connection.pollSendDatagram, Connection.whenConnected]
    cases s.inner.state with
    | connected =>
      refine .inr ⟨buf, fresh, native, (Option.some.inj hp).symm, rfl, ?_⟩
      show ConnectionRes.SentOk (.pollSendDatagram (.returned (.ready _))) = true ↔ _
      cases (Connection.checkedSendDatagram s.inner buf fresh native).result with
      | ok _ => exact iff_of_true rfl rfl
      | error e => exact iff_of_false Bool.noConfusion fun h => by cases h
    | shutdown | shutdownComplete =>
      left
      unfold Connection.lost
      cases s.inner.error <;> exact ⟨rfl, rfl⟩
    | _ => exact .inl ⟨rfl, rfl⟩
  | sendDatagram buf fresh native =>
    simp only [call, after_calls, after_result, Connection.sendDatagram]
    cases s.inner.state with
    | connected =>
      refine .inr ⟨buf, fresh, native, (Option.some.inj hp).symm, rfl, ?_⟩
      show ConnectionRes.SentOk (.sendDatagram (.returned _)) = true ↔ _
      cases (Connection.checkedSendDatagram s.inner buf fresh native).result with
      | ok _ => exact iff_of_true rfl rfl
      | error e => exact iff_of_false Bool.noConfusion fun h => by cases h
    | shutdown | shutdownComplete =>
      left
      cases s.inner.error <;> exact ⟨rfl, rfl⟩
    | _ => exact .inl ⟨rfl, rfl⟩
  | _ => cases hp

/-- **MsQuic takes what the caller is told was sent**, in every step. -/
theorem ConnectionSys.takenDatagrams_step (hx : ∀ b ∈ s.inner.writePool, b.Empty)
    {l : ConnectionLabel ω} (hok : SendContract s l) :
    takenDatagrams (s.step l).calls = l.sendsOk (s.step l).result := by
  unfold ConnectionLabel.sendsOk
  cases hp : l.pieces? with
  | none =>
    have hnone : datagramSends (s.step l).calls = [] := by
      refine List.eq_nil_iff_forall_not_mem.mpr fun m hm => ?_
      obtain ⟨_, hinput, -⟩ := ((step_boxes hok).2 hx).payload m hm
      cases hp.symm.trans hinput
    rw [takenDatagrams, hnone]
    rfl
  | some pieces =>
    cases l with
    | event => cases hp
    | call op =>
      rw [step]
      rcases call_datagram (s := s) hp with ⟨hcalls, hres⟩ | ⟨buf, fresh, native, rfl, hcalls, hres⟩
      · rw [hcalls, hres]
        rfl
      · rw [hcalls, Connection.takenDatagrams_checked hx]
        simp only [hres, List.flatten_singleton]

end

/-! ## Between them -/

/-- A report about a datagram names a box that MsQuic has. -/
def DatagramContract (_ : List (ConnectionStep ω)) (s : ConnectionSys ω) (l : ConnectionLabel ω) :
    Prop :=
  s.SendContract l

/-- The datagrams that have arrived. -/
def datagramsArrived (tr : List (ConnectionStep ω)) : List Bytes := Inbound.datagrams.arrived tr

/-- MsQuic hands over a datagram that the other side has sent and that it has not handed over. -/
def Brings (sent arrived : List Bytes) (l : ConnectionLabel ω) : Prop :=
  ∀ buffer, l = .event (.datagramReceived buffer) → (arrived ++ [buffer.bytes]).Subperm sent

def Carried (tr tr' : List (ConnectionStep ω)) : ConnectionLabel ω ⊕ ConnectionLabel ω → Prop
  | .inl l => Brings (datagramsTaken tr') (datagramsArrived tr) l
  | .inr l => Brings (datagramsTaken tr) (datagramsArrived tr') l

/-- The two ends of a connection. -/
def datagramLink (ω : Type) [WillWake ω] :=
  (connectionSystem (ω := ω) DatagramContract).beside (connectionSystem (ω := ω) DatagramContract)
    Carried

/-- What has arrived at each side was taken at the other. -/
structure LinkInv (tr tr' : List (ConnectionStep ω)) : Prop where
  right : (datagramsArrived tr').Subperm (datagramsTaken tr)
  left : (datagramsArrived tr).Subperm (datagramsTaken tr')

section

variable {tr tr' : List (ConnectionStep ω)} {e : ConnectionStep ω}

theorem datagramsArrived_cons :
    datagramsArrived (e :: tr) = datagramsArrived tr ++ datagramsArrived [e] := by
  simp [datagramsArrived, Inbound.arrived]

theorem LinkInv.step (h : LinkInv tr tr')
    (hb : Brings (datagramsTaken tr') (datagramsArrived tr) e.label) : LinkInv (e :: tr) tr' where
  right := h.right.trans (List.sublist_append_right _ _).subperm
  left := by
    have hsame (hnone : datagramsArrived [e] = []) :
        (datagramsArrived (e :: tr)).Subperm (datagramsTaken tr') := by
      rw [datagramsArrived_cons, hnone, List.append_nil]
      exact h.left
    cases hl : e.label with
    | call op => exact hsame (by simp [datagramsArrived, Inbound.arrived, hl])
    | event ev =>
      cases ev with
      | datagramReceived buffer =>
        have hone : datagramsArrived [e] = [buffer.bytes] := by
          simp [datagramsArrived, Inbound.arrived, Inbound.datagrams, hl]
        rw [datagramsArrived_cons, hone]
        exact hb buffer hl
      | _ => exact hsame (by simp [datagramsArrived, Inbound.arrived, Inbound.datagrams, hl])

theorem LinkInv.symm (h : LinkInv tr tr') : LinkInv tr' tr := ⟨h.left, h.right⟩

variable [WillWake ω] {s : ConnectionSys ω}

theorem pool_empty_run (h : (connectionSystem DatagramContract).Run tr s) :
    ∀ b ∈ s.inner.writePool, b.Empty := by
  refine h.invariant_state (I := fun s => ∀ b ∈ s.inner.writePool, b.Empty) (fun s hi => ?_)
    fun tr s l _ hok hi => (ConnectionSys.step_boxes hok).1.empty hi
  cases hi <;> exact List.forall_mem_nil _

theorem datagramsTaken_eq (h : (connectionSystem DatagramContract).Run tr s) :
    datagramsTaken tr = datagramsSent tr := by
  refine h.invariant (I := fun tr _ => datagramsTaken tr = datagramsSent tr) (fun _ _ => rfl)
    fun tr s l hr hok hi => ?_
  show takenDatagrams (s.step l).calls ++ datagramsTaken tr =
    l.sendsOk (s.step l).result ++ datagramsSent tr
  rw [hi, ConnectionSys.takenDatagrams_step (pool_empty_run hr) hok]

theorem handed_subperm (h : (connectionSystem DatagramContract).Run tr s) :
    (Inbound.datagrams.handed tr).Subperm (datagramsArrived tr) := by
  have hq := (Inbound.lawful_datagrams.exact h).queue
  rw [datagramsArrived, hq]
  exact (List.sublist_append_left _ _).subperm

variable {ts : List (Step (ConnectionSys ω × ConnectionSys ω) (ConnectionLabel ω ⊕ ConnectionLabel ω)
    (Out ω ConnectionCall ConnectionRes ⊕ Out ω ConnectionCall ConnectionRes))}
  {t : ConnectionSys ω}

/-- **Datagrams are carried unchanged**: what each application is handed was sent by the other,
as often at least, and whoever waits for a datagram has been handed all that arrived. -/
theorem datagrams_carried (h : (datagramLink ω).Run ts (s, t)) :
    ((Inbound.datagrams.handed (rights ts)).Subperm (datagramsSent (lefts ts)) ∧
      (t.inner.recvWaiters ≠ [] →
        Inbound.datagrams.handed (rights ts) = datagramsArrived (rights ts))) ∧
    (Inbound.datagrams.handed (lefts ts)).Subperm (datagramsSent (rights ts)) ∧
      (s.inner.recvWaiters ≠ [] →
        Inbound.datagrams.handed (lefts ts) = datagramsArrived (lefts ts)) := by
  have hinv : LinkInv (lefts ts) (rights ts) := h.beside_invariant
    ⟨List.Subperm.refl _, List.Subperm.refl _⟩ (fun _ _ _ _ _ _ hb hi => hi.step hb)
    fun _ _ t l _ _ hb hi =>
      (hi.symm.step (e := (connectionSystem DatagramContract).take t l) hb).symm
  refine ⟨⟨?_, (Inbound.lawful_datagrams.exact h.right).waiting⟩, ?_,
    (Inbound.lawful_datagrams.exact h.left).waiting⟩
  · rw [← datagramsTaken_eq h.left]
    exact (handed_subperm h.right).trans hinv.right
  · rw [← datagramsTaken_eq h.right]
    exact (handed_subperm h.left).trans hinv.left

end

theorem datagrams_carried_late :
    ∃ (ts : List (Step (ConnectionSys Nat × ConnectionSys Nat)
        (ConnectionLabel Nat ⊕ ConnectionLabel Nat)
        (Out Nat ConnectionCall ConnectionRes ⊕ Out Nat ConnectionCall ConnectionRes)))
      (s t : ConnectionSys Nat),
      (datagramLink Nat).Run ts (s, t) ∧ ts.map Step.label =
        [.inr (.call (.pollReceiveDatagram 7)), .inr (.event (.datagramReceived (.ofSlice [3]))),
          .inl (.call (.sendDatagram [3] 1 (.ok ()))),
          .inl (.call (.sendDatagram [1, 2] 0 (.ok ()))),
          .inl (.event (.datagramStateChanged true 1200)), .inl (.event (.connected default)),
          .inl (.call (.pollStart 1 (.ok ())))] ∧
      datagramsSent (lefts ts) = [[3], [1, 2]] ∧ datagramsArrived (rights ts) = [[3]] ∧
      (Inbound.datagrams.handed (rights ts)).Subperm (datagramsSent (lefts ts)) := by
  have h0 := System.Run.start (S := datagramLink Nat) (s := (_, _)) ⟨.new, .fromRaw none none⟩
  have h1 := h0.step_inl (.call (.pollStart 1 (.ok ()))) nofun nofun
  have h2 := h1.step_inl (.event (.connected default)) nofun nofun
  have h3 := h2.step_inl (.event (.datagramStateChanged true 1200)) nofun nofun
  have h4 := h3.step_inl (.call (.sendDatagram [1, 2] 0 (.ok ()))) nofun nofun
  have h5 := h4.step_inl (.call (.sendDatagram [3] 1 (.ok ()))) nofun nofun
  have h6 := h5.step_inr (.event (.datagramReceived (.ofSlice [3]))) nofun (by
    rintro _ h
    cases h
    exact (List.sublist_append_left [[3]] [[1, 2]]).subperm)
  have h7 := h6.step_inr (.call (.pollReceiveDatagram 7)) nofun nofun
  exact ⟨_, _, _, h7, rfl, rfl, rfl, (datagrams_carried h7).1.1⟩

end MsquicAsync
