import MsquicAsync.Connection.Shutdown

/-!
# Why a connection was lost

`Reason` reads the reason of a loss off the history: the last shutdown that
MsQuic initiated or that the application asked of a connected connection, and a
local one if ShutdownComplete came without any. The recorded error is that
reason, so every call that answers `ConnectionLost` tells the truth, and once the
shutdown is complete every poll does (`lost_reason_truthful`).
-/

namespace MsquicAsync

open Runs Connection

variable {ω : Type}

/-- The reason a step gives for a loss, if it gives one. -/
def givesReason (e : ConnectionStep ω) : Option ConnectionError :=
  match e.label with
  | .event (.shutdownInitiatedByTransport status errorCode) =>
    some (.shutdownByTransport status errorCode)
  | .event (.shutdownInitiatedByPeer errorCode) => some (.shutdownByPeer errorCode)
  | .call (.pollShutdown _ _) | .call (.shutdown _) =>
    if e.pre.inner.state = .connected then some .shutdownByLocal else none
  | _ => none

/-- The reason of a loss: the last one given, or a local shutdown if the shutdown is complete and
none was given. -/
def Reason (tr : List (ConnectionStep ω)) (err : ConnectionError) : Prop :=
  tr.findSome? givesReason = some err ∨
    (tr.findSome? givesReason = none ∧ err = .shutdownByLocal ∧
      ∃ e ∈ tr, e.label.IsShutdownComplete)

/-- The error a call answers with because the connection is lost. -/
def ConnectionRes.lost? : ConnectionRes → Option ConnectionError
  | start (.returned (.ready (.error (.connectionLost e))))
  | acceptInboundStream (.returned (.ready (.error (.connectionLost e))))
  | acceptInboundUniStream (.returned (.ready (.error (.connectionLost e))))
  | openOutboundStream (.returned (.ready (.error (.connectionLost e))))
  | receiveDatagram (.returned (.ready (.error (.connectionLost e))))
  | pollSendDatagram (.returned (.ready (.error (.connectionLost e))))
  | sendDatagram (.returned (.error (.connectionLost e)))
  | pollShutdown (.returned (.ready (.error (.connectionLost e))))
  | event (.returned (.ready (.error (.connectionLost e)))) => some e
  | _ => none

/-- The calls that need the connection: all but a shutdown that does not wait and the key log. -/
def ConnectionOp.NeedsConnection : ConnectionOp ω → Prop
  | shutdown _ | setSslkeylogFile _ _ _ => False
  | _ => True

/-! ## The recorded error -/

section

variable [WillWake ω] {tr : List (ConnectionStep ω)} {s : ConnectionSys ω}
  {ok : List (ConnectionStep ω) → ConnectionSys ω → ConnectionLabel ω → Prop}

variable (ok) in
/-- A step that gives a reason records it; ShutdownComplete records one if none is there. -/
theorem nextError_eq (s : ConnectionSys ω) (l : ConnectionLabel ω) :
    (l.IsShutdownComplete ∧ givesReason ((connectionSystem ok).take s l) = none ∧
        (s.step l).state.inner.error = s.inner.error.or (some .shutdownByLocal)) ∨
      (¬ l.IsShutdownComplete ∧
        (s.step l).state.inner.error =
          (givesReason ((connectionSystem ok).take s l)).or s.inner.error) := by
  rw [s.step_error]
  cases l with
  | call op =>
    refine .inr ⟨id, ?_⟩
    cases op with
    | pollShutdown | shutdown =>
      by_cases hc : s.inner.state = .connected <;>
        simp [ConnectionState.nextError, givesReason, hc]
    | _ => rfl
  | event ev =>
    cases ev with
    | shutdownComplete =>
      refine .inl ⟨trivial, rfl, ?_⟩
      cases s.inner.error <;> rfl
    | _ => exact .inr ⟨id, rfl⟩

/-- **The recorded error is the reason of the loss.** -/
theorem error_iff_reason (h : (connectionSystem ok).Run tr s) (err : ConnectionError) :
    s.inner.error = some err ↔ Reason tr err := by
  refine h.invariant (I := fun tr s => ∀ err, s.inner.error = some err ↔ Reason tr err) ?_
    (fun tr s l _ _ ih err => ?_) err
  · rintro _ (_ | _) err <;> simp [Reason, ConnectionInnerExclusive.new]
  · -- what the history before the step says
    have hnone : s.inner.error = none → tr.findSome? givesReason = none := fun hn => by
      by_contra hne
      obtain ⟨a, ha⟩ := Option.ne_none_iff_exists'.mp hne
      have := (ih a).mpr (.inl ha)
      rw [hn] at this
      cases this
    show (s.step l).state.inner.error = some err ↔ _
    rcases nextError_eq ok s l with ⟨hsc, hgives, he⟩ | ⟨hsc, he⟩
    · rw [he, Reason, List.findSome?_cons, hgives]
      have hmem : ∃ e ∈ (connectionSystem ok).take s l :: tr, e.label.IsShutdownComplete :=
        ⟨_, List.mem_cons_self, hsc⟩
      cases herr : s.inner.error with
      | none =>
        simp only [hnone herr, Option.none_or, reduceCtorEq, false_or, true_and, hmem, and_true,
          Option.some.injEq]
        exact eq_comm
      | some a =>
        rw [Option.some_or, Option.some.injEq]
        have hr := (ih a).mp herr
        constructor
        · rintro rfl
          exact hr.imp id fun ⟨h1, h2, _⟩ => ⟨h1, h2, hmem⟩
        · rintro (hf | ⟨hf, rfl, -⟩)
          · exact Option.some.inj (herr.symm.trans ((ih err).mpr (.inl hf)))
          · rcases hr with hf' | ⟨-, rfl, -⟩
            · cases hf.symm.trans hf'
            · rfl
    · rw [he, Reason, List.findSome?_cons]
      cases hgives : givesReason ((connectionSystem ok).take s l) with
      | some a => simp
      | none =>
        have hmem : (∃ e ∈ (connectionSystem ok).take s l :: tr, e.label.IsShutdownComplete) ↔
            ∃ e ∈ tr, e.label.IsShutdownComplete := by
          rw [List.exists_mem_cons_iff]
          exact or_iff_right hsc
        simp only [Option.none_or, hmem]
        exact ih err

end

/-! ## Answers -/

/-- The connection is lost: its shutdown has begun or is complete. -/
def ConnectionInnerExclusive.Lost (x : ConnectionInnerExclusive ω) : Prop :=
  x.state = .shutdown ∨ x.state = .shutdownComplete

/-- A call answers that the connection is lost only with the error recorded by a lost connection;
after ShutdownComplete it does, unless it is told that its own shutdown is complete. -/
structure AnswersLost (x : ConnectionInnerExclusive ω) (r : ConnectionRes) : Prop where
  only : ∀ err, r.lost? = some err → x.error = some err ∧ x.Lost
  down : x.state = .shutdownComplete → r.lost? = x.error ∨
    (x.error = some .shutdownByLocal ∧ r = .pollShutdown (.returned (.ready (.ok ()))))

section

variable {x : ConnectionInnerExclusive ω} {r : ConnectionRes}

theorem AnswersLost.silent (hs : x.state ≠ .shutdownComplete) (h : r.lost? = none) :
    AnswersLost x r :=
  ⟨fun _ he => absurd (h.symm.trans he) nofun, fun hsc => absurd hsc hs⟩

theorem AnswersLost.told (hs : x.Lost) (h : r.lost? = x.error) : AnswersLost x r :=
  ⟨fun _ he => ⟨h.symm.trans he, hs⟩, fun _ => .inl h⟩

variable {ε α : Type} {wrap : ConnectionError → ε} {g : Outcome (Poll (Except ε α)) → ConnectionRes}

/-- `lost?` reads a poll whose error is `wrap` of the connection's. -/
structure ReadsLost (g : Outcome (Poll (Except ε α)) → ConnectionRes)
    (wrap : ConnectionError → ε) : Prop where
  error : ∀ e, (g (.returned (.ready (.error (wrap e))))).lost? = some e
  panicked : ∀ m, (g (.panicked m)).lost? = none
  pending : (g (.returned .pending)).lost? = none

theorem ReadsLost.lost (hg : ReadsLost g wrap) (hs : x.Lost) :
    AnswersLost x (g (Connection.lost x wrap).result) := by
  refine .told hs ?_
  unfold Connection.lost
  cases x.error with
  | none => exact hg.panicked _
  | some e => exact hg.error e

theorem ReadsLost.gate [WillWake ω] (hg : ReadsLost g wrap) {cx : ω} {notStarted : ε}
    {body : ConnectionRan ω (Outcome (Poll (Except ε α)))}
    (hns : (g (.returned (.ready (.error notStarted)))).lost? = none)
    (hb : (g body.result).lost? = none) :
    AnswersLost x (g (whenConnected x cx notStarted wrap body).result) := by
  unfold whenConnected
  split
  · next hs => exact .silent (by simp [hs]) hns
  · next hs => exact .silent (by simp [hs]) hg.pending
  · next hs => exact .silent (by simp [hs]) hb
  · next hs => exact hg.lost (.inl hs)
  · next hs => exact hg.lost (.inr hs)

end

theorem lost?_checkedSendDatagram (x : ConnectionInnerExclusive ω) (buf : Bytes) (fresh : Nat)
    (native : NativeResult) :
    (ConnectionRes.pollSendDatagram
      (.returned (.ready (checkedSendDatagram x buf fresh native).result))).lost? = none ∧
    (ConnectionRes.sendDatagram
      (.returned (checkedSendDatagram x buf fresh native).result)).lost? = none := by
  unfold checkedSendDatagram
  split
  · exact ⟨rfl, rfl⟩
  · split
    · exact ⟨rfl, rfl⟩
    · cases native <;> exact ⟨rfl, rfl⟩

variable [WillWake ω]

theorem ConnectionSys.call_answersLost (s : ConnectionSys ω) {op : ConnectionOp ω}
    (hop : op.NeedsConnection) : AnswersLost s.inner (s.call op).result := by
  cases op with
  | shutdown | setSslkeylogFile => exact hop.elim
  | pollStart cx native =>
    have hg : ReadsLost ConnectionRes.start ConnectionStartError.connectionLost :=
      ⟨fun _ => rfl, fun _ => rfl, rfl⟩
    simp only [call, after_result, Connection.pollStart]
    split
    · next hs => cases native <;> exact .silent (by simp [hs]) rfl
    · next hs => exact .silent (by simp [hs]) rfl
    · next hs => exact .silent (by simp [hs]) rfl
    · next hs => exact hg.lost (.inl hs)
    · next hs => exact hg.lost (.inr hs)
  | pollAcceptInboundStream | pollAcceptInboundUniStream | pollReceiveDatagram =>
    refine ReadsLost.gate ⟨fun _ => rfl, fun _ => rfl, rfl⟩ rfl ?_
    split <;> rfl
  | pollOpenOutboundStream => exact ReadsLost.gate ⟨fun _ => rfl, fun _ => rfl, rfl⟩ rfl rfl
  | pollSendDatagram cx buf fresh native =>
    exact ReadsLost.gate ⟨fun _ => rfl, fun _ => rfl, rfl⟩ rfl
      (lost?_checkedSendDatagram s.inner buf fresh native).1
  | sendDatagram buf fresh native =>
    have hlost (hs : s.inner.Lost) : AnswersLost s.inner (ConnectionRes.sendDatagram
        ((expect s.inner.error "error").map fun e => .error (.connectionLost e))) := by
      refine .told hs ?_
      cases s.inner.error <;> rfl
    simp only [call, after_result, Connection.sendDatagram]
    split
    · next hs => exact .silent (by simp [hs]) rfl
    · next hs => exact .silent (by simp [hs]) rfl
    · next hs =>
      exact .silent (by simp [hs]) (lost?_checkedSendDatagram s.inner buf fresh native).2
    · next hs => exact hlost (.inl hs)
    · next hs => exact hlost (.inr hs)
  | pollShutdown cx errorCode =>
    have hg : ReadsLost ConnectionRes.pollShutdown ShutdownError.connectionLost :=
      ⟨fun _ => rfl, fun _ => rfl, rfl⟩
    simp only [call, after_result, Connection.pollShutdown]
    split
    · next hs => exact .silent (by simp [hs]) rfl
    · next hs => exact .silent (by simp [hs]) rfl
    · next hs => exact .silent (by simp [hs]) rfl
    · next hs => exact .silent (by simp [hs]) rfl
    · next hs =>
      split
      · next he => exact ⟨fun _ h => (by cases h), fun _ => .inr ⟨he, rfl⟩⟩
      · exact hg.lost (.inr hs)
  | pollEvent cx =>
    have hg : ReadsLost ConnectionRes.event EventError.connectionLost :=
      ⟨fun _ => rfl, fun _ => rfl, rfl⟩
    simp only [call, after_result, Connection.pollEvent]
    split
    · next hs => exact .silent (by simp [hs]) rfl
    · next hs => exact .silent (by simp [hs]) rfl
    · next hs => split <;> exact .silent (by simp [hs]) rfl
    · next hs => split <;> exact .silent (by simp [hs]) rfl
    · next hs => exact hg.lost (.inr hs)

/-! ## Runs -/

section

variable {tr : List (ConnectionStep ω)} {s : ConnectionSys ω}
  {ok : List (ConnectionStep ω) → ConnectionSys ω → ConnectionLabel ω → Prop}

/-- **The reason of a loss is told truthfully**, in every state of every run: whatever answers
that the connection is lost names the reason that the history gives, and after
ShutdownComplete every poll answers so at once, but for a `poll_shutdown` whose own shutdown
it was. -/
theorem lost_reason_truthful (h : (connectionSystem ok).Run tr s) {op : ConnectionOp ω}
    (hop : op.NeedsConnection) :
    (∀ err, (s.call op).result.lost? = some err → Reason tr err ∧ s.inner.Lost) ∧
      (s.inner.state = .shutdownComplete → ∃ err, Reason tr err ∧
        ((s.call op).result.lost? = some err ∨ (err = .shutdownByLocal ∧
          (s.call op).result = .pollShutdown (.returned (.ready (.ok ())))))) := by
  have ha := s.call_answersLost hop
  refine ⟨fun err he => ?_, fun hs => ?_⟩
  · obtain ⟨hrec, hlost⟩ := ha.only err he
    exact ⟨(error_iff_reason h err).mp hrec, hlost⟩
  · obtain ⟨err, herr⟩ := Option.isSome_iff_exists.mp (error_isSome h (.inr hs))
    refine ⟨err, (error_iff_reason h err).mp herr, ?_⟩
    rcases ha.down hs with he | ⟨he, hr⟩
    · exact .inl (he.trans herr)
    · exact .inr ⟨Option.some.inj (herr.symm.trans he), hr⟩

end

/-- The peer's shutdown overtakes the application's own: `poll_shutdown` names the peer. -/
theorem lost_reason_truthful_peer :
    ∃ (tr : List (ConnectionStep Nat)) (s : ConnectionSys Nat),
      (connectionSystem fun _ _ _ => True).Run tr s ∧ tr.map Step.label =
        [.event (.shutdownComplete true true false), .event (.shutdownInitiatedByPeer 3),
          .call (.shutdown 0)] ∧
      (s.call (.pollShutdown 1 0)).result.lost? = some (.shutdownByPeer 3) ∧
      Reason tr (.shutdownByPeer 3) ∧ s.inner.Lost := by
  have h0 := System.Run.start (S := connectionSystem (ω := Nat) fun _ _ _ => True)
    (.fromRaw none none)
  have h3 := ((h0.step (.call (.shutdown 0)) trivial).step (.event (.shutdownInitiatedByPeer 3))
    trivial).step (.event (.shutdownComplete true true false)) trivial
  have hop : (ConnectionOp.pollShutdown 1 0 : ConnectionOp Nat).NeedsConnection := trivial
  exact ⟨_, _, h3, rfl, rfl, (lost_reason_truthful h3 hop).1 _ rfl⟩

end MsquicAsync
