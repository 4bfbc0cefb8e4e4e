import MsquicAsync.Listener.Accepts

/-!
# What a stop future stops

A stop future keeps no state: every poll decides from the listener's state alone.
A run stops only what it was asked to stop (`StopsOwnSession`) exactly when every
poll that decides to stop is the first of its future, and no start comes between
a decision and the call of MsQuic it leads to (`StopsInTime`). One step is
`StopStep`; `Doomed` is a stop that will hit a later session.
-/

namespace MsquicAsync

open Runs Listener

variable {ω : Type}

def ListenerLabel.isNativeStop (fut : Nat) : ListenerLabel ω → Bool
  | nativeStop f => f == fut
  | _ => false

theorem ListenerLabel.isNativeStop_iff {fut : Nat} {l : ListenerLabel ω} :
    l.isNativeStop fut = true ↔ l = .nativeStop fut := by
  cases l <;> simp [isNativeStop]

/-- A poll of the stop future stayed pending: it waits for the session it found to stop. -/
def PendedBy (fut : Nat) (e : ListenerStep ω) : Prop :=
  (∃ cx, e.label = .pollStop fut cx) ∧ e.out.result = .stop .pending

/-- How often a stop future called the native stop. -/
def nativeStops (fut : Nat) (tr : List (ListenerStep ω)) : Nat :=
  tr.countP (·.label.isNativeStop fut)

/-- Each stop future calls the native stop at most once, and only ever stops the session that it
has been waiting for. -/
structure StopsOwnSession (tr : List (ListenerStep ω)) : Prop where
  once : ∀ fut, nativeStops fut tr ≤ 1
  own : ∀ e tr', e :: tr' <:+ tr → ∀ fut, e.label = .nativeStop fut →
    ∀ e' ∈ tr', PendedBy fut e' → e.pre.session = e'.pre.session

/-- The start succeeds. -/
def ListenerSys.Restarts (s : ListenerSys ω) : ListenerLabel ω → Prop
  | .start _ _ (.ok ()) | .startOnPort _ _ (.ok ()) =>
    s.inner.state = .opened ∨ s.inner.state = .shutdownComplete
  | _ => False

/-- A poll that decides to stop is the first of its future to pend, and no start succeeds while
a decision has not been carried out. -/
def StopsInTime (tr : List (ListenerStep ω)) (s : ListenerSys ω) (l : ListenerLabel ω) : Prop :=
  (∀ fut cx, l = .pollStop fut cx → s.inner.state = .startComplete → ∀ e ∈ tr, ¬ PendedBy fut e) ∧
    (s.Restarts l → s.stopping = [])

/-! ## One step -/

/-- What a step does to the decisions under way, to the session and to the state. -/
inductive StopStep (s : ListenerSys ω) : ListenerLabel ω → Ran (ListenerSys ω) ω ListenerCall
    ListenerRes → Prop
  | decides {fut : Nat} {cx : ω} {r : Ran (ListenerSys ω) ω ListenerCall ListenerRes}
      (serving : s.inner.state = .startComplete) (result : r.result = .stop .pending)
      (stopping : r.state.stopping = fut :: s.stopping) (session : r.state.session = s.session)
      (state : r.state.inner.state = .shutdown) : StopStep s (.pollStop fut cx) r
  | calls {fut : Nat} {r : Ran (ListenerSys ω) ω ListenerCall ListenerRes}
      (stopping : r.state.stopping = s.stopping.erase fut) (session : r.state.session = s.session)
      (state : r.state.inner.state = s.inner.state) : StopStep s (.nativeStop fut) r
  | restarts {l : ListenerLabel ω} {r : Ran (ListenerSys ω) ω ListenerCall ListenerRes}
      (restarts : s.Restarts l) (poll : ∀ fut cx, l ≠ .pollStop fut cx)
      (native : ∀ fut, l ≠ .nativeStop fut)
      (stopping : r.state.stopping = s.stopping) (session : r.state.session = s.session + 1) :
      StopStep s l r
  | other {l : ListenerLabel ω} {r : Ran (ListenerSys ω) ω ListenerCall ListenerRes}
      (restarts : ¬ s.Restarts l) (native : ∀ fut, l ≠ .nativeStop fut)
      (waits : r.result = .stop .pending → s.inner.state = .shutdown)
      (serves : ∀ fut cx, l = .pollStop fut cx → s.inner.state ≠ .startComplete)
      (stopping : r.state.stopping = s.stopping) (session : r.state.session = s.session)
      (state : r.state.inner.state = .startComplete → s.inner.state = .startComplete) :
      StopStep s l r

section

variable {s : ListenerSys ω}

theorem StopStep.of_same {l : ListenerLabel ω} {r : Ran (ListenerSys ω) ω ListenerCall ListenerRes}
    (hl : (∃ cx, l = .pollAccept cx) ∨ (∃ file, l = .setSslkeylogFile file) ∨
      ∃ c k b p q, l = .newConnection c k b p q)
    (result : ∀ a, r.result ≠ .stop a) (stopping : r.state.stopping = s.stopping)
    (session : r.state.session = s.session) (state : r.state.inner.state = s.inner.state) :
    StopStep s l r := by
  refine .other ?_ ?_ (fun h => absurd h (result _)) ?_ stopping session fun h => state ▸ h
  all_goals
    rcases hl with ⟨cx, rfl⟩ | ⟨file, rfl⟩ | ⟨c, k, b, p, q, rfl⟩ <;> simp [ListenerSys.Restarts]

theorem stopStep_afterStart {l : ListenerLabel ω} (alpn : List Bytes)
    (localAddress : Option ListenAddr) (native : NativeResult)
    (hr : s.Restarts l ↔ native = .ok () ∧
      (s.inner.state = .opened ∨ s.inner.state = .shutdownComplete))
    (hpoll : ∀ fut cx, l ≠ .pollStop fut cx) (hnative : ∀ fut, l ≠ .nativeStop fut) :
    StopStep s l (s.afterStart (startWith s.inner alpn localAddress native)) := by
  by_cases hok : native = .ok () ∧ (s.inner.state = .opened ∨ s.inner.state = .shutdownComplete)
  · refine .restarts (hr.mpr hok) hpoll hnative rfl ?_
    obtain ⟨rfl, hs | hs⟩ := hok <;> simp [ListenerSys.afterStart, startWith, hs, Except.toBool]
  · refine .other (fun h => hok (hr.mp h)) hnative (fun h => by cases h)
      (fun fut cx h => absurd h (hpoll fut cx)) rfl ?_ ?_
    · cases hs : s.inner.state <;> cases native <;>
        simp_all [ListenerSys.afterStart, startWith, Except.toBool]
    · cases hs : s.inner.state <;> cases native <;>
        simp_all [ListenerSys.afterStart, startWith]

theorem stopStep_pollStop [WillWake ω] (fut : Nat) (cx : ω) :
    StopStep s (.pollStop fut cx) (s.step (.pollStop fut cx)) := by
  by_cases hs : s.inner.state = .startComplete
  · refine .decides hs ?_ ?_ rfl ?_ <;> simp [ListenerSys.step, pollStop, hs]
  · refine .other (by simp [ListenerSys.Restarts]) (fun _ h => by cases h) ?_ (fun _ _ _ => hs)
      ?_ rfl ?_
    all_goals cases hstate : s.inner.state <;> simp_all [ListenerSys.step, pollStop]

/-- **What a step does** to the decisions under way, to the session and to the state. -/
theorem stopStep [WillWake ω] (s : ListenerSys ω) (l : ListenerLabel ω) :
    StopStep s l (s.step l) := by
  cases l with
  | start alpn localAddress native =>
    refine stopStep_afterStart alpn _ native ?_ (fun _ _ h => by cases h) (fun _ h => by cases h)
    cases native <;> simp [ListenerSys.Restarts]
  | startOnPort alpn localPort native =>
    refine stopStep_afterStart alpn _ native ?_ (fun _ _ h => by cases h) (fun _ h => by cases h)
    cases native <;> simp [ListenerSys.Restarts]
  | pollAccept cx =>
    refine .of_same (.inl ⟨cx, rfl⟩) (fun _ h => by cases h) rfl rfl ?_
    show (pollAccept s.inner cx).state.state = _
    cases pollAccept_ends (x := s.inner) cx with
    | took c rest queue result state => rw [state]
    | refused e queue result state => rw [state]
    | waits waiters queue serving result state => rw [state]
  | pollStop fut cx => exact stopStep_pollStop fut cx
  | nativeStop fut => exact .calls rfl rfl rfl
  | setSslkeylogFile file =>
    refine .of_same (.inr (.inl ⟨file, rfl⟩)) (fun _ h => by cases h) rfl rfl ?_
    show (setSslkeylogFile s.inner file).state.state = _
    unfold setSslkeylogFile
    split <;> rfl
  | newConnection connection clone box setParam setConfiguration =>
    refine .of_same (.inr (.inr ⟨_, _, _, _, _, rfl⟩)) (fun _ h => by cases h) rfl rfl ?_
    have hends := newConnection_ends (x := s.inner) connection clone box setParam setConfiguration
    simp only [ListenerSys.step, Ran.lift_state]
    cases hends with
    | queued c handle registered result woken state => rw [state]
    | failed e result woken state => rw [state]
  | stopComplete appCloseInProgress =>
    exact .other (by simp [ListenerSys.Restarts]) (fun _ h => by cases h) (fun h => by cases h)
      (fun _ _ h => by cases h) rfl rfl (fun h => by cases h)

end

/-! ## Decisions in time stop the right session -/

section

variable {e : ListenerStep ω} {tr : List (ListenerStep ω)}

theorem nativeStops_cons_of_ne {fut : Nat} (h : e.label ≠ .nativeStop fut) :
    nativeStops fut (e :: tr) = nativeStops fut tr := by
  refine List.countP_cons_of_neg ?_
  exact fun hn => h (ListenerLabel.isNativeStop_iff.mp hn)

theorem nativeStops_cons_self {fut : Nat} (h : e.label = .nativeStop fut) :
    nativeStops fut (e :: tr) = nativeStops fut tr + 1 :=
  List.countP_cons_of_pos (ListenerLabel.isNativeStop_iff.mpr h)

theorem StopsOwnSession.cons (h : StopsOwnSession tr)
    (he : ∀ fut, e.label = .nativeStop fut → nativeStops fut tr = 0 ∧
      ∀ e' ∈ tr, PendedBy fut e' → e.pre.session = e'.pre.session) :
    StopsOwnSession (e :: tr) where
  once fut := by
    by_cases hl : e.label = .nativeStop fut
    · rw [nativeStops_cons_self hl, (he fut hl).1]
    · rw [nativeStops_cons_of_ne hl]
      exact h.once fut
  own e₀ tr₀ hsuf fut hl e' he' hp := by
    rcases List.suffix_cons_iff.mp hsuf with heq | hsuf
    · obtain ⟨rfl, rfl⟩ := List.cons.inj heq
      exact (he fut hl).2 e' he' hp
    · exact h.own e₀ tr₀ hsuf fut hl e' he' hp

theorem StopsOwnSession.of_cons (h : StopsOwnSession (e :: tr)) : StopsOwnSession tr where
  once fut := le_trans ((List.sublist_cons_self e tr).countP_le) (h.once fut)
  own e₀ tr₀ hsuf := h.own e₀ tr₀ (hsuf.trans (List.suffix_cons e tr))

end

/-- The decisions under way: each future among them has been waiting for this session only, and
has not called MsQuic yet. -/
structure DecidedInTime (tr : List (ListenerStep ω)) (s : ListenerSys ω) : Prop where
  nodup : s.stopping.Nodup
  pended : ∀ fut ∈ s.stopping, ∃ e ∈ tr, PendedBy fut e
  session : ∀ fut ∈ s.stopping, ∀ e ∈ tr, PendedBy fut e → e.pre.session = s.session
  fresh : ∀ fut ∈ s.stopping, nativeStops fut tr = 0
  called : ∀ fut, nativeStops fut tr ≠ 0 → ∃ e ∈ tr, PendedBy fut e
  promise : StopsOwnSession tr

section

variable [WillWake ω] {s : ListenerSys ω} {tr : List (ListenerStep ω)} {l : ListenerLabel ω}

omit [WillWake ω] in
theorem DecidedInTime.called_cons (h : DecidedInTime tr s) {e : ListenerStep ω}
    (hne : ∀ fut, e.label ≠ .nativeStop fut) :
    (∀ fut, nativeStops fut (e :: tr) ≠ 0 → ∃ e' ∈ e :: tr, PendedBy fut e') ∧
      StopsOwnSession (e :: tr) := by
  refine ⟨fun fut hf => ?_, h.promise.cons fun fut hl => absurd hl (hne fut)⟩
  rw [nativeStops_cons_of_ne (hne fut)] at hf
  exact List.exists_mem_cons_of_exists (h.called fut hf)

theorem DecidedInTime.step (h : DecidedInTime tr s) (hok : OnePollAtATime tr s l)
    (hc : StopsInTime tr s l) :
    DecidedInTime ((listenerSystem OnePollAtATime).take s l :: tr) (s.step l).state := by
  cases stopStep s l with
  | @decides fut cx _ serving result stopping session state =>
    -- the first poll of its future to pend
    have hnew : ∀ e ∈ tr, ¬ PendedBy fut e := hc.1 fut cx rfl serving
    have hne : ∀ f, ((listenerSystem OnePollAtATime).take s (.pollStop fut cx)).label ≠
        .nativeStop f := fun f hl => by cases hl
    obtain ⟨hcalled, hpromise⟩ := h.called_cons hne
    have hmem {f : Nat} (hf : f ∈ (s.step (.pollStop fut cx)).state.stopping) :
        f = fut ∨ f ∈ s.stopping := by
      rw [stopping] at hf
      exact List.mem_cons.mp hf
    refine ⟨?_, fun f hf => ?_, fun f hf e he hp => ?_, fun f hf => ?_, hcalled, hpromise⟩
    · rw [stopping]
      exact List.nodup_cons.mpr ⟨hok, h.nodup⟩
    · rcases hmem hf with rfl | hf
      · exact ⟨_, List.mem_cons_self, ⟨cx, rfl⟩, result⟩
      · exact List.exists_mem_cons_of_exists (h.pended f hf)
    · rw [session]
      rcases List.mem_cons.mp he with rfl | htl
      · rfl
      · rcases hmem hf with rfl | hf
        · exact absurd hp (hnew e htl)
        · exact h.session f hf e htl hp
    · rw [nativeStops_cons_of_ne (hne f)]
      rcases hmem hf with rfl | hf
      · by_contra hcall
        obtain ⟨e, he, hp⟩ := h.called f hcall
        exact hnew e he hp
      · exact h.fresh f hf
  | @calls fut _ stopping session state =>
    have hfut : fut ∈ s.stopping := hok
    have hmem {f : Nat} (hf : f ∈ (s.step (.nativeStop fut)).state.stopping) :
        f ≠ fut ∧ f ∈ s.stopping := by
      rw [stopping] at hf
      exact (h.nodup.mem_erase_iff).mp hf
    refine ⟨?_, fun f hf => ?_, fun f hf e he hp => ?_, fun f hf => ?_, fun f hf => ?_, ?_⟩
    · rw [stopping]
      exact h.nodup.erase fut
    · exact List.exists_mem_cons_of_exists (h.pended f (hmem hf).2)
    · rw [session]
      rcases List.mem_cons.mp he with rfl | he
      · rfl
      · exact h.session f (hmem hf).2 e he hp
    · rw [nativeStops_cons_of_ne]
      · exact h.fresh f (hmem hf).2
      · intro hl
        injection hl with hl
        exact (hmem hf).1 hl.symm
    · by_cases hff : f = fut
      · subst hff
        exact List.exists_mem_cons_of_exists (h.pended f hfut)
      · rw [nativeStops_cons_of_ne] at hf
        · exact List.exists_mem_cons_of_exists (h.called f hf)
        · intro hl
          injection hl with hl
          exact hff hl.symm
    · refine h.promise.cons fun f hl => ?_
      obtain rfl : fut = f := by injection hl
      exact ⟨h.fresh fut hfut, fun e' he' hp => (h.session fut hfut e' he' hp).symm⟩
  | restarts restarts poll native stopping session =>
    have hnone : s.stopping = [] := hc.2 restarts
    obtain ⟨hcalled, hpromise⟩ := h.called_cons (e := (listenerSystem OnePollAtATime).take s l) native
    rw [hnone] at stopping
    refine ⟨?_, fun f hf => ?_, fun f hf => ?_, fun f hf => ?_, hcalled, hpromise⟩
    · rw [stopping]
      exact List.nodup_nil
    all_goals
      rw [stopping] at hf
      cases hf
  | other restarts native waits serves stopping session state =>
    obtain ⟨hcalled, hpromise⟩ := h.called_cons (e := (listenerSystem OnePollAtATime).take s l) native
    refine ⟨stopping ▸ h.nodup, fun f hf => ?_, fun f hf e he hp => ?_, fun f hf => ?_, hcalled,
      hpromise⟩
    all_goals rw [stopping] at hf
    · exact List.exists_mem_cons_of_exists (h.pended f hf)
    · rw [session]
      rcases List.mem_cons.mp he with rfl | he
      · rfl
      · exact h.session f hf e he hp
    · rw [nativeStops_cons_of_ne (native f)]
      exact h.fresh f hf

theorem run_decidedInTime (h : (listenerSystem OnePollAtATime).Run tr s)
    (hc : ∀ e tr', e :: tr' <:+ tr → StopsInTime tr' e.pre e.label) : DecidedInTime tr s := by
  refine h.invariant (I := fun tr s =>
    (∀ e tr', e :: tr' <:+ tr → StopsInTime tr' e.pre e.label) → DecidedInTime tr s) ?_ ?_ hc
  · rintro _ rfl _
    refine ⟨List.nodup_nil, fun f hf => ?_, fun f hf => ?_, fun f hf => ?_,
      fun f hf => absurd rfl hf, fun _ => Nat.zero_le 1, fun e tr' hsuf => ?_⟩
    · cases hf
    · cases hf
    · cases hf
    · exact absurd (List.suffix_nil.mp hsuf) (List.cons_ne_nil _ _)
  · intro tr s l _ hok ih hc
    exact (ih fun e tr' hsuf => hc e tr' (hsuf.trans (List.suffix_cons _ _))).step hok
      (hc _ tr (List.suffix_refl _))

/-! ## A late decision stops another session -/

/-- Whoever has been waiting waits for an earlier session, or for this one to stop. -/
structure WaitedFor (tr : List (ListenerStep ω)) (s : ListenerSys ω) : Prop where
  waited : ∀ fut, ∀ e ∈ tr, PendedBy fut e →
    e.pre.session < s.session ∨ e.pre.session = s.session ∧ s.inner.state ≠ .startComplete
  pended : ∀ fut ∈ s.stopping, ∃ e ∈ tr, PendedBy fut e

theorem WaitedFor.step (h : WaitedFor tr s) :
    WaitedFor ((listenerSystem OnePollAtATime).take s l :: tr) (s.step l).state := by
  have hpend {f : Nat} (hf : f ∈ s.stopping) :
      ∃ e ∈ (listenerSystem OnePollAtATime).take s l :: tr, PendedBy f e := by
    exact List.exists_mem_cons_of_exists (h.pended f hf)
  cases stopStep s l with
  | @decides fut cx _ serving result stopping session state =>
    have hstate : (s.step (.pollStop fut cx)).state.inner.state ≠ .startComplete := by
      rw [state]
      decide
    refine ⟨fun f e he hp => ?_, fun f hf => ?_⟩
    · rw [session]
      rcases List.mem_cons.mp he with rfl | he
      · exact .inr ⟨rfl, hstate⟩
      · exact (h.waited f e he hp).imp_right fun heq => ⟨heq.1, hstate⟩
    · rw [stopping] at hf
      rcases List.mem_cons.mp hf with rfl | hf
      · exact ⟨_, List.mem_cons_self, ⟨cx, rfl⟩, result⟩
      · exact hpend hf
  | @calls fut _ stopping session state =>
    refine ⟨fun f e he hp => ?_, fun f hf => ?_⟩
    · rw [session, state]
      rcases List.mem_cons.mp he with rfl | he
      · obtain ⟨⟨cx, hl⟩, -⟩ := hp
        cases hl
      · exact h.waited f e he hp
    · rw [stopping] at hf
      exact hpend (List.mem_of_mem_erase hf)
  | restarts restarts poll native stopping session =>
    refine ⟨fun f e he hp => ?_, fun f hf => ?_⟩
    · rw [session]
      rcases List.mem_cons.mp he with rfl | he
      · obtain ⟨⟨cx, hl⟩, -⟩ := hp
        exact absurd hl (poll f cx)
      · left
        rcases h.waited f e he hp with hlt | ⟨heq, -⟩ <;> omega
    · rw [stopping] at hf
      exact hpend hf
  | other restarts native waits serves stopping session state =>
    refine ⟨fun f e he hp => ?_, fun f hf => ?_⟩
    · rw [session]
      rcases List.mem_cons.mp he with rfl | he
      · have hshut : s.inner.state = .shutdown := waits hp.2
        refine .inr ⟨rfl, fun hs => ?_⟩
        rw [state hs] at hshut
        cases hshut
      · exact (h.waited f e he hp).imp_right fun heq => ⟨heq.1, fun hs => heq.2 (state hs)⟩
    · rw [stopping] at hf
      exact hpend hf

theorem run_waitedFor (h : (listenerSystem OnePollAtATime).Run tr s) : WaitedFor tr s := by
  refine h.invariant (I := WaitedFor) ?_ fun tr s l _ _ ih => ih.step
  rintro _ rfl
  refine ⟨fun f e he => ?_, fun f hf => ?_⟩
  · cases he
  · cases hf

/-- The future has yet to call the native stop, and has been waiting for an earlier session. -/
def Doomed (tr : List (ListenerStep ω)) (s : ListenerSys ω) (fut : Nat) : Prop :=
  fut ∈ s.stopping ∧ ∃ e ∈ tr, PendedBy fut e ∧ e.pre.session < s.session

theorem Doomed.step {fut : Nat} (h : Doomed tr s fut) :
    Doomed ((listenerSystem OnePollAtATime).take s l :: tr) (s.step l).state fut ∨
      ¬ StopsOwnSession ((listenerSystem OnePollAtATime).take s l :: tr) := by
  obtain ⟨hmem, e, he, hp, hlt⟩ := h
  by_cases hl : l = .nativeStop fut
  · right
    intro hown
    have heq : s.session = e.pre.session := hown.own _ tr (List.suffix_refl _) fut hl e he hp
    omega
  · left
    have hstep : fut ∈ (s.step l).state.stopping ∧ s.session ≤ (s.step l).state.session := by
      cases stopStep s l with
      | decides serving result stopping session state =>
        rw [stopping, session]
        exact ⟨List.mem_cons_of_mem _ hmem, le_rfl⟩
      | @calls f _ stopping session state =>
        rw [stopping, session]
        refine ⟨(List.mem_erase_of_ne fun heq => hl ?_).mpr hmem, le_rfl⟩
        rw [heq]
      | restarts restarts poll native stopping session =>
        rw [stopping, session]
        exact ⟨hmem, Nat.le_succ _⟩
      | other restarts native waits serves stopping session state =>
        rw [stopping, session]
        exact ⟨hmem, le_rfl⟩
    exact ⟨hstep.1, e, List.mem_cons_of_mem _ he, hp, lt_of_lt_of_le hlt hstep.2⟩

/-- A late decision dooms a future. -/
theorem doomed_of_late (h : WaitedFor tr s) (hc : ¬ StopsInTime tr s l) :
    ∃ fut, Doomed ((listenerSystem OnePollAtATime).take s l :: tr) (s.step l).state fut := by
  rw [StopsInTime, not_and_or] at hc
  rcases hc with hc | hc
  · push Not at hc
    obtain ⟨fut, cx, rfl, hserving, e, he, hp⟩ := hc
    refine ⟨fut, ?_⟩
    cases stopStep s (.pollStop fut cx) with
    | decides serving result stopping session state =>
      refine ⟨by rw [stopping]; exact List.mem_cons_self, e, List.mem_cons_of_mem _ he, hp, ?_⟩
      rw [session]
      exact (h.waited fut e he hp).resolve_right fun heq => heq.2 hserving
    | restarts restarts poll native stopping session => exact absurd rfl (poll fut cx)
    | other restarts native waits serves stopping session state =>
      exact absurd hserving (serves fut cx rfl)
  · push Not at hc
    obtain ⟨hrestarts, hne⟩ := hc
    obtain ⟨fut, hfut⟩ := List.exists_mem_of_ne_nil _ hne
    obtain ⟨e, he, hp⟩ := h.pended fut hfut
    refine ⟨fut, ?_⟩
    cases stopStep s l with
    | decides serving result stopping session state => exact hrestarts.elim
    | calls stopping session state => exact hrestarts.elim
    | restarts restarts poll native stopping session =>
      refine ⟨by rw [stopping]; exact hfut, e, List.mem_cons_of_mem _ he, hp, ?_⟩
      rw [session]
      rcases h.waited fut e he hp with hlt | ⟨heq, -⟩ <;> omega
    | other restarts native waits serves stopping session state => exact absurd hrestarts restarts

/-- **What a stop future stops**: decisions that come in time stop only the session they were
asked to stop, and in a run that leaves no poll half done they are the only ones that do. -/
theorem stops_own_session_iff (h : (listenerSystem OnePollAtATime).Run tr s) :
    ((∀ e tr', e :: tr' <:+ tr → StopsInTime tr' e.pre e.label) → StopsOwnSession tr) ∧
      (s.stopping = [] → StopsOwnSession tr →
        ∀ e tr', e :: tr' <:+ tr → StopsInTime tr' e.pre e.label) := by
  refine ⟨fun hc => (run_decidedInTime h hc).promise, fun hdone hown e tr' hsuf => ?_⟩
  by_contra hc
  obtain ⟨hr, -, htake⟩ := h.of_suffix hsuf
  obtain ⟨fut, hdoomed⟩ := doomed_of_late (run_waitedFor hr) hc
  have hend : Doomed tr s fut ∨ ¬ StopsOwnSession tr := by
    refine h.invariant_after (I := fun tr s => Doomed tr s fut ∨ ¬ StopsOwnSession tr) hsuf
      (.inl ?_) ?_
    · rw [htake]
      exact hdoomed
    · intro tr s l _ _ ih
      rcases ih with hd | hnot
      · exact hd.step
      · exact .inr fun hown => hnot hown.of_cons
  rcases hend with ⟨hmem, -⟩ | hnot
  · rw [hdone] at hmem
    cases hmem
  · exact hnot hown

end

/-- A stop future polled until the listener has stopped, and a restart after it. -/
theorem stops_own_session_ready :
    ∃ (tr : List (ListenerStep Nat)) (s : ListenerSys Nat),
      (listenerSystem OnePollAtATime).Run tr s ∧ tr.map Step.label =
        [.start [] none (.ok ()), .pollStop 0 1, .stopComplete false, .nativeStop 0,
          .pollStop 0 1, .start [] none (.ok ())] ∧
      StopsOwnSession tr := by
  have hr := System.Run.step (S := listenerSystem OnePollAtATime) (.start [] none (.ok ()))
    (.step (.pollStop 0 1) (.step (.stopComplete false) (.step (.nativeStop 0)
      (.step (.pollStop 0 1) (.step (.start [] none (.ok ()))
        (.start (rfl : ({ inner := {} } : ListenerSys Nat) = _)) (by decide)) (by decide))
      (by decide)) (by decide)) (by decide)) (by decide)
  refine ⟨_, _, hr, rfl, (stops_own_session_iff hr).1 ?_⟩
  simp only [forall_suffix_cons, StopsInTime, System.take_label, System.take_pre]
  have hno {l : ListenerLabel Nat} (h : ∀ fut cx, l ≠ .pollStop fut cx) {P : Nat → Prop}
      {q : Prop} : ∀ fut cx, l = .pollStop fut cx → q → P fut :=
    fun fut cx hl => absurd hl (h fut cx)
  refine ⟨⟨hno (by simp), fun _ => rfl⟩, ⟨fun fut cx _ hs => absurd hs (by decide), False.elim⟩,
    ⟨hno (by simp), False.elim⟩, ⟨hno (by simp), False.elim⟩, ⟨?_, False.elim⟩,
    ⟨hno (by simp), fun _ => trivial⟩, forall_suffix_nil⟩
  -- the one poll that finds the listener started is the first
  rintro fut cx _ _ e he ⟨⟨cx', hl⟩, -⟩
  rw [List.mem_singleton.mp he] at hl
  cases hl

/-- Another task restarts the listener before the woken stop future is polled again: the future
stops the new session, with a second native stop. -/
theorem stop_future_stops_restart :
    ∃ (tr : List (ListenerStep Nat)) (s : ListenerSys Nat),
      (listenerSystem OnePollAtATime).Run tr s ∧ tr.map Step.label =
        [.nativeStop 0, .pollStop 0 1, .start [] none (.ok ()), .stopComplete false,
          .nativeStop 0, .pollStop 0 1, .start [] none (.ok ())] ∧
      nativeStops 0 tr = 2 ∧ s.inner.state = .shutdown ∧ ¬ StopsOwnSession tr := by
  have hr := System.Run.step (S := listenerSystem OnePollAtATime) (.nativeStop 0)
    (.step (.pollStop 0 1) (.step (.start [] none (.ok ())) (.step (.stopComplete false)
      (.step (.nativeStop 0) (.step (.pollStop 0 1) (.step (.start [] none (.ok ()))
        (.start (rfl : ({ inner := {} } : ListenerSys Nat) = _)) (by decide)) (by decide))
      (by decide)) (by decide)) (by decide)) (by decide)) (by decide)
  exact ⟨_, _, hr, rfl, rfl, rfl, fun hown => absurd (hown.once 0) (by decide)⟩

end MsquicAsync
