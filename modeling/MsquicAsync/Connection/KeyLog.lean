import MsquicAsync.Connection.Lifecycle

/-!
# The key log

`set_sslkeylog_file` puts the secrets buffer into the state before it registers
it with MsQuic, and does not take it back when that fails. A run keeps its
promise (an error changes nothing, a success leaves a registered buffer) exactly
when no call fails at that point.
-/

namespace MsquicAsync

open Runs Connection

variable {ω : Type}

/-- The key-log file and the secrets buffer. -/
def ConnectionInnerExclusive.keyLog (x : ConnectionInnerExclusive ω) : Option Nat × Option Nat :=
  (x.sslkeylogFile, x.tlsSecrets)

/-- The buffer at `box` was registered with MsQuic: by a call of the run, or by the listener
that accepted the connection with it. -/
def Registered (tr : List (ConnectionStep ω)) (s : ConnectionSys ω) (box : Nat) : Prop :=
  (∃ e ∈ tr, .setTlsSecrets box (.ok ()) ∈ e.out.calls) ∨
    (origin tr s).inner.tlsSecrets = some box

/-- The call asks MsQuic to register a new secrets buffer, and MsQuic refuses. -/
def FailsToRegister (s : ConnectionSys ω) : ConnectionLabel ω → Prop
  | .call (.setSslkeylogFile _ _ (.error _)) =>
    s.inner.sslkeylogFile = none ∧ s.inner.tlsSecrets = none
  | _ => False

/-- What a `set_sslkeylog_file` promises: an error leaves the file and the buffer as they were,
so that a retry does what the first attempt would have done, and a success leaves a registered
buffer. -/
def KeepsKeyLogPromise (e : ConnectionStep ω) (tr : List (ConnectionStep ω)) : Prop :=
  ∀ file box native, e.label = .call (.setSslkeylogFile file box native) →
    (∀ err, e.out.result = .setSslkeylogFile (.error err) →
      e.post.inner.keyLog = e.pre.inner.keyLog ∧
      ∀ file' box' native',
        (setSslkeylogFile e.post.inner file' box' native').toOut =
          (setSslkeylogFile e.pre.inner file' box' native').toOut) ∧
    (e.out.result = .setSslkeylogFile (.ok ()) →
      ∃ b, e.post.inner.tlsSecrets = some b ∧ Registered (e :: tr) e.post b)

section

variable {x : ConnectionInnerExclusive ω}

theorem setSslkeylogFile_congr {y : ConnectionInnerExclusive ω} (h : y.keyLog = x.keyLog)
    (file box : Nat) (native : NativeResult) :
    (setSslkeylogFile y file box native).toOut = (setSslkeylogFile x file box native).toOut := by
  obtain ⟨hf, ht⟩ := Prod.mk.inj h
  unfold setSslkeylogFile
  rw [hf, ht]
  split
  · rfl
  · split
    · cases native <;> rfl
    · rfl

end

section

variable [WillWake ω] {s : ConnectionSys ω} {box : Nat}

theorem ConnectionSys.call_keyLog {op : ConnectionOp ω} (h : ¬ op.IsSetSslkeylogFile) :
    (s.call op).state.inner.keyLog = s.inner.keyLog := by
  have hk := s.call_keeps op
  exact Prod.ext (hk.sslkeylogFile h) (hk.tlsSecrets h)

omit [WillWake ω] in
theorem ConnectionSys.dispatchEvent_tlsSecrets {ev : MsquicConnectionEvent}
    (h : (s.dispatchEvent ev).state.inner.tlsSecrets = some box) :
    s.inner.tlsSecrets = some box := by
  cases ev with
  | connected secrets =>
    simp only [dispatchEvent, after_inner, handleEventConnected] at h
    cases ht : s.inner.tlsSecrets <;> cases hf : s.inner.sslkeylogFile <;> simp_all
  | datagramSendStateChanged clientContext state =>
    simp only [dispatchEvent] at h
    cases state
    case sent | canceled =>
      cases hb : WriteBuffer.fromRaw s.native clientContext <;> rw [hb] at h <;> exact h
    all_goals exact h
  | peerStreamStarted stream streamType => cases streamType <;> exact h
  | notifyRemoteAddressAdded address n =>
    simp only [dispatchEvent, after_inner, handleEventNotifyRemoteAddressAdded] at h
    cases ha : address.asSocket <;> rw [ha] at h <;> exact h
  | notifyObservedAddress | pathValidated | pathAdded | pathRemoved | pathStatusChanged =>
    exact pushAddrEvent_state (P := fun y => y.tlsSecrets = _ → s.inner.tlsSecrets = _)
      (fun _ _ => id) h
  | _ => exact h

/-- **Where a buffer comes from**: it was there before, it has just been registered, or its
registration has just failed. -/
theorem ConnectionSys.step_tlsSecrets {l : ConnectionLabel ω}
    (h : (s.step l).state.inner.tlsSecrets = some box) :
    s.inner.tlsSecrets = some box ∨ .setTlsSecrets box (.ok ()) ∈ (s.step l).calls ∨
      FailsToRegister s l := by
  cases l with
  | event ev => exact .inl (dispatchEvent_tlsSecrets h)
  | call op =>
    by_cases hop : op.IsSetSslkeylogFile
    · cases op with
      | setSslkeylogFile file box' native =>
        simp only [step, call, after_inner, after_calls, Connection.setSslkeylogFile] at h ⊢
        split at h
        · exact .inl h
        · next hf =>
          rw [if_neg hf]
          split at h
          · next ht =>
            rw [if_pos ht]
            cases native with
            | error e =>
              exact .inr (.inr ⟨Option.not_isSome_iff_eq_none.mp hf, Option.isNone_iff_eq_none.mp ht⟩)
            | ok =>
              obtain rfl : box' = box := Option.some.inj h
              exact .inr (.inl (List.mem_singleton.mpr rfl))
          · exact .inl h
      | _ => cases hop
    · left
      exact (Prod.mk.inj (call_keyLog hop)).2.symm.trans h

variable {ok : List (ConnectionStep ω) → ConnectionSys ω → ConnectionLabel ω → Prop}
  {tr : List (ConnectionStep ω)}

/-- Where no registration has failed, the buffer that is there is registered. -/
theorem registered_of_run (h : (connectionSystem ok).Run tr s)
    (hc : ∀ e ∈ tr, ¬ FailsToRegister e.pre e.label) (hb : s.inner.tlsSecrets = some box) :
    Registered tr s box := by
  refine h.invariant (I := fun tr s => (∀ e ∈ tr, ¬ FailsToRegister e.pre e.label) →
    ∀ box, s.inner.tlsSecrets = some box → Registered tr s box) ?_ ?_ hc box hb
  · intro s _ _ box hb
    exact .inr hb
  · intro tr s l _ _ ih hc box hb
    have htl := fun e he => hc e (List.mem_cons_of_mem _ he)
    rcases ConnectionSys.step_tlsSecrets hb with hpre | hnew | hfail
    · rcases ih htl box hpre with ⟨e, he, hcall⟩ | horigin
      · exact .inl ⟨e, List.mem_cons_of_mem _ he, hcall⟩
      · exact .inr horigin
    · exact .inl ⟨_, List.mem_cons_self, hnew⟩
    · exact absurd hfail (hc _ List.mem_cons_self)

omit [WillWake ω] in
/-- How a call ends: the file is there already, a buffer is there, or its registration failed
and the buffer is left behind. -/
theorem setSslkeylogFile_cases (x : ConnectionInnerExclusive ω) (file box : Nat)
    (native : NativeResult) :
    ((setSslkeylogFile x file box native).state = x ∧
      (setSslkeylogFile x file box native).result = .error .sslKeyLogFileAlreadySet) ∨
    ((∃ b, (setSslkeylogFile x file box native).state.tlsSecrets = some b) ∧
      (setSslkeylogFile x file box native).result = .ok ()) ∨
    ((setSslkeylogFile x file box native).state.tlsSecrets = some box ∧ x.sslkeylogFile = none ∧
      x.tlsSecrets = none ∧ ∃ e, native = .error e ∧
        (setSslkeylogFile x file box native).result = .error (.otherError e)) := by
  unfold setSslkeylogFile
  split
  · exact .inl ⟨rfl, rfl⟩
  · next hf =>
    split
    · next ht =>
      cases native with
      | error e =>
        exact .inr (.inr ⟨rfl, Option.not_isSome_iff_eq_none.mp hf, Option.isNone_iff_eq_none.mp ht,
          e, rfl, rfl⟩)
      | ok => exact .inr (.inl ⟨⟨box, rfl⟩, rfl⟩)
    · next ht =>
      exact .inr (.inl ⟨Option.ne_none_iff_exists'.mp (by simpa using ht), rfl⟩)

theorem fails_of_promise {l : ConnectionLabel ω}
    (h : KeepsKeyLogPromise ((connectionSystem ok).take s l) tr) : ¬ FailsToRegister s l := by
  intro hfail
  unfold FailsToRegister at hfail
  split at hfail
  · next file box err =>
    obtain ⟨hf, ht⟩ := hfail
    have hres : (s.call (.setSslkeylogFile file box (.error err))).result =
        .setSslkeylogFile (.error (.otherError err)) := by
      simp [ConnectionSys.call, Connection.setSslkeylogFile, hf, ht]
    have hpost : (s.call (.setSslkeylogFile file box (.error err))).state.inner.tlsSecrets =
        some box := by
      simp [ConnectionSys.call, Connection.setSslkeylogFile, hf, ht]
    -- the buffer that could not be registered is left behind
    have hsame := (Prod.mk.inj ((h file box _ rfl).1 _ hres).1).2
    have hnone : some box = none := hpost.symm.trans (hsame.trans ht)
    cases hnone
  · exact hfail

theorem promise_of_run {l : ConnectionLabel ω} (h : (connectionSystem ok).Run tr s)
    (hok : (connectionSystem ok).ok tr s l) (hc : ∀ e ∈ tr, ¬ FailsToRegister e.pre e.label)
    (hl : ¬ FailsToRegister s l) : KeepsKeyLogPromise ((connectionSystem ok).take s l) tr := by
  rintro file box native rfl
  refine ⟨fun err herr => ?_, fun hres => ?_⟩
  · have herr' : (setSslkeylogFile s.inner file box native).result = .error err := by
      injection herr
    have hkeep : (setSslkeylogFile s.inner file box native).state.keyLog = s.inner.keyLog := by
      rcases setSslkeylogFile_cases s.inner file box native
        with ⟨hstate, -⟩ | ⟨-, hok'⟩ | ⟨-, hf, ht, e, rfl, -⟩
      · rw [hstate]
      · rw [hok'] at herr'
        cases herr'
      · exact absurd ⟨hf, ht⟩ hl
    exact ⟨hkeep, fun file' box' native' => setSslkeylogFile_congr hkeep file' box' native'⟩
  · have hres' : (setSslkeylogFile s.inner file box native).result = .ok () := by
      injection hres
    rcases setSslkeylogFile_cases s.inner file box native
      with ⟨-, herr⟩ | ⟨⟨b, hb⟩, -⟩ | ⟨-, hf, ht, e, rfl, -⟩
    · rw [herr] at hres'
      cases hres'
    · have hrun := h.step _ hok
      exact ⟨b, hb, registered_of_run hrun (List.forall_mem_cons.mpr ⟨hl, hc⟩) hb⟩
    · exact absurd ⟨hf, ht⟩ hl

/-- **A run keeps the promise of `set_sslkeylog_file` exactly when** no call's registration
fails in it. -/
theorem sslkeylog_promise_iff (h : (connectionSystem ok).Run tr s) :
    (∀ e tr', e :: tr' <:+ tr → KeepsKeyLogPromise e tr') ↔
      ∀ e ∈ tr, ¬ FailsToRegister e.pre e.label := by
  constructor
  · intro hkeep e he
    obtain ⟨l₁, l₂, hl⟩ := List.append_of_mem he
    have hsuf : e :: l₂ <:+ tr := ⟨l₁, hl.symm⟩
    obtain ⟨-, -, htake⟩ := h.of_suffix hsuf
    have hpromise := hkeep e l₂ hsuf
    rw [htake] at hpromise
    exact fails_of_promise hpromise
  · intro hc e tr' hsuf
    obtain ⟨hr, hok, htake⟩ := h.of_suffix hsuf
    rw [htake]
    have hbefore : ∀ e' ∈ tr', ¬ FailsToRegister e'.pre e'.label :=
      fun e' he' => hc e' (hsuf.subset (List.mem_cons_of_mem _ he'))
    exact promise_of_run hr hok hbefore (hc e (hsuf.subset List.mem_cons_self))

end

/-- A successful call, the Connected event that writes the log, and a second call that finds
the registered buffer again. -/
theorem sslkeylog_promise_second_call :
    ∃ (tr : List (ConnectionStep Nat)) (s : ConnectionSys Nat),
      (connectionSystem LifecycleContract).Run tr s ∧ tr.map Step.label =
        [.call (.setSslkeylogFile 4 20 (.ok ())), .event (.connected default),
          .call (.setSslkeylogFile 3 10 (.ok ()))] ∧
      ∀ e tr', e :: tr' <:+ tr → KeepsKeyLogPromise e tr' := by
  have hr := System.Run.step (S := connectionSystem LifecycleContract)
    (.call (.setSslkeylogFile 4 20 (.ok ())))
    (.step (.event (.connected default))
      (.step (.call (.setSslkeylogFile 3 10 (.ok ())))
        (.start (.new : ConnectionSys.Init (ω := Nat) _))
        (by simp [connectionSystem, LifecycleContract, NothingFollowsShutdownComplete]))
      (by simp [connectionSystem, LifecycleContract, NothingFollowsShutdownComplete,
        ConnectionLabel.IsShutdownComplete, ConnectionLabel.IsConnected]))
    (by simp [connectionSystem, LifecycleContract, NothingFollowsShutdownComplete,
      ConnectionLabel.IsEvent, ConnectionLabel.IsConnected])
  refine ⟨_, _, hr, rfl, (sslkeylog_promise_iff hr).mpr ?_⟩
  simp [FailsToRegister]

/-- After a refused registration the buffer is left behind, and the retry succeeds without
registering it. -/
theorem sslkeylog_retry_unregistered :
    ∃ (tr : List (ConnectionStep Nat)) (s : ConnectionSys Nat) (e : ConnectionStep Nat),
      (connectionSystem LifecycleContract).Run (e :: tr) s ∧
      (e :: tr).map Step.label =
        [.call (.setSslkeylogFile 4 20 (.ok ())), .call (.setSslkeylogFile 3 10 (.error 1))] ∧
      e.pre.inner.tlsSecrets = some 10 ∧ e.out.result = .setSslkeylogFile (.ok ()) ∧
      e.out.calls = [] ∧ s.inner.tlsSecrets = some 10 ∧ ¬ Registered (e :: tr) s 10 ∧
      ¬ KeepsKeyLogPromise e tr := by
  have hr := System.Run.step (S := connectionSystem LifecycleContract)
    (.call (.setSslkeylogFile 4 20 (.ok ())))
    (.step (.call (.setSslkeylogFile 3 10 (.error 1)))
      (.start (.new : ConnectionSys.Init (ω := Nat) _))
      (by simp [connectionSystem, LifecycleContract, NothingFollowsShutdownComplete]))
    (by simp [connectionSystem, LifecycleContract, NothingFollowsShutdownComplete,
      ConnectionLabel.IsShutdownComplete, ConnectionLabel.IsConnected])
  refine ⟨_, _, _, hr, rfl, rfl, rfl, rfl, rfl,
    (and_iff_left_of_imp fun hnot hkeep => ?_).mpr ?_⟩
  · obtain ⟨b, hb, hreg⟩ := (hkeep 4 20 (.ok ()) rfl).2 rfl
    obtain rfl : 10 = b := Option.some.inj hb
    exact hnot hreg
  · rintro (⟨e, he, hcall⟩ | horigin)
    · rcases List.mem_pair.mp he with rfl | rfl
      · cases hcall
      · cases List.mem_singleton.mp hcall
    · cases horigin

end MsquicAsync
