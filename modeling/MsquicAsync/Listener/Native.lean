import MsquicAsync.Lib.Devices
import MsquicAsync.Listener.Stop

/-!
# MsQuic's listener behind ours

MsQuic's own listener is idle, running or stopping, and takes a start only when
idle and a stop only when running. Four states of ours and the decisions under
way track those three (`Tracks`), over every number of restarts: our listener asks
MsQuic for nothing that it would refuse, and what its calls answer is true of
MsQuic's listener at that moment (`listener_tracks_native`).
-/

namespace MsquicAsync

open Runs Listener

variable {ω : Type}

namespace Listener

/-- The address getters answer for a started listener only. -/
def ensureStarted (x : ListenerInnerExclusive ω) : Except ListenError Unit :=
  match x.state with
  | .opened => .error .notStarted
  | .startComplete | .shutdown | .shutdownComplete => .ok ()

/-- `native` is what MsQuic answers: an address that may have no family, and its port. -/
def localAddr (x : ListenerInnerExclusive ω) (native : Except Status (Option SocketAddr × UInt16)) :
    Except ListenError SocketAddr :=
  (ensureStarted x).bind fun _ =>
    match native with
    | .error _ => .error .failed
    | .ok (none, _) => .error .unspecifiedLocalAddress
    | .ok (some address, _) => .ok address

def localPort (x : ListenerInnerExclusive ω) (native : Except Status (Option SocketAddr × UInt16)) :
    Except ListenError UInt16 :=
  (ensureStarted x).bind fun _ =>
    match native with
    | .error _ => .error .failed
    | .ok (_, port) => .ok port

end Listener

/-! ## MsQuic's listener -/

inductive NativeListener where
  | idle
  | running
  | stopping
  deriving DecidableEq, Repr

inductive NativeListenerOp where
  | start (result : NativeResult)
  | stop
  | stopComplete

/-- A start is for an idle listener, a stop for a running one; StopComplete follows a stop. -/
def nativeListener : Device NativeListener NativeListenerOp where
  init := .idle
  step
    | .idle, .start (.ok ()) => some .running
    | .idle, .start (.error _) => some .idle
    | .running, .stop => some .stopping
    | .stopping, .stopComplete => some .idle
    | _, _ => none

def ListenerCall.nativeOp? : ListenerCall → Option NativeListenerOp
  | start _ _ result => some (.start result)
  | stop => some .stop
  | _ => none

/-- What an event tells of MsQuic's listener. -/
def ListenerLabel.nativeOps : ListenerLabel ω → List NativeListenerOp
  | stopComplete _ => [.stopComplete]
  | _ => []

/-- What a step hears of MsQuic's listener, and what it asks of it. -/
def nativeOps (e : ListenerStep ω) : List NativeListenerOp :=
  e.label.nativeOps ++ e.out.calls.filterMap ListenerCall.nativeOp?

/-- StopComplete comes once for each stop, after it. -/
structure NativeContract (tr : List (ListenerStep ω)) (s : ListenerSys ω) (l : ListenerLabel ω) :
    Prop where
  polls : OnePollAtATime tr s l
  stopped : ∀ b, l = .stopComplete b → nativeListener.after nativeOps tr = some .stopping

/-- A start has succeeded. -/
def HasStarted (tr : List (ListenerStep ω)) : Prop := ∃ e ∈ tr, e.out.result = .start (.ok ())

/-- Our listener, and what MsQuic's does then. A decision to stop has either not called yet, or
is waiting for StopComplete. -/
inductive Tracks (tr : List (ListenerStep ω)) (s : ListenerSys ω) : NativeListener → Prop
  | opened (hs : s.inner.state = .opened) (hstop : s.stopping = []) (hst : ¬ HasStarted tr) :
      Tracks tr s .idle
  | running (hs : s.inner.state = .startComplete) (hstop : s.stopping = []) (hst : HasStarted tr) :
      Tracks tr s .running
  | decided (hs : s.inner.state = .shutdown) (fut : Nat) (hstop : s.stopping = [fut])
      (hst : HasStarted tr) : Tracks tr s .running
  | stopping (hs : s.inner.state = .shutdown) (hstop : s.stopping = []) (hst : HasStarted tr) :
      Tracks tr s .stopping
  | stopped (hs : s.inner.state = .shutdownComplete) (hstop : s.stopping = [])
      (hst : HasStarted tr) : Tracks tr s .idle

/-- What an answer says of MsQuic's listener, and of the history. -/
def ListenerRes.Fits (tr : List (ListenerStep ω)) (n : NativeListener) : ListenerRes → Prop
  | start (.ok ()) | start (.error (.otherError _)) => n = .idle
  | start (.error _) => n ≠ .idle
  | stop (.ready (.ok ())) | accept (.ready (.error .finished)) => n = .idle ∧ HasStarted tr
  | stop (.ready (.error _)) | accept (.ready (.error _)) => n = .idle ∧ ¬ HasStarted tr
  | stop .pending | accept .pending => n ≠ .idle
  | _ => True

section

variable {tr : List (ListenerStep ω)} {s t : ListenerSys ω} {n : NativeListener}
  {e : ListenerStep ω}

theorem hasStarted_cons : HasStarted (e :: tr) ↔ e.out.result = .start (.ok ()) ∨ HasStarted tr := by
  simp only [HasStarted, List.mem_cons, exists_eq_or_imp]

theorem Tracks.keep (h : Tracks tr s n) (he : e.out.result ≠ .start (.ok ()))
    (hs : t.inner.state = s.inner.state) (hstop : t.stopping = s.stopping) :
    Tracks (e :: tr) t n := by
  have hst : HasStarted (e :: tr) ↔ HasStarted tr :=
    hasStarted_cons.trans (or_iff_right he)
  cases h with
  | opened h1 h2 h3 => exact .opened (hs.trans h1) (hstop.trans h2) (mt hst.mp h3)
  | running h1 h2 h3 => exact .running (hs.trans h1) (hstop.trans h2) (hst.mpr h3)
  | decided h1 fut h2 h3 => exact .decided (hs.trans h1) fut (hstop.trans h2) (hst.mpr h3)
  | stopping h1 h2 h3 => exact .stopping (hs.trans h1) (hstop.trans h2) (hst.mpr h3)
  | stopped h1 h2 h3 => exact .stopped (hs.trans h1) (hstop.trans h2) (hst.mpr h3)

/-- How a step is tracked: MsQuic's listener takes what it is asked, and the answer fits. -/
def TrackedStep (tr : List (ListenerStep ω)) (n : NativeListener) (e : ListenerStep ω) : Prop :=
  (∃ n', nativeListener.run n (nativeOps e) = some n' ∧ Tracks (e :: tr) e.post n') ∧
    e.out.result.Fits tr n

theorem TrackedStep.of_keep (h : Tracks tr s n) (hops : nativeOps e = [])
    (he : e.out.result ≠ .start (.ok ())) (hs : e.post.inner.state = s.inner.state)
    (hstop : e.post.stopping = s.stopping) (hfits : e.out.result.Fits tr n) :
    TrackedStep tr n e := ⟨⟨n, by rw [hops]; rfl, h.keep he hs hstop⟩, hfits⟩

theorem Tracks.start (h : Tracks tr s n) {l : ListenerLabel ω} (hl : l.nativeOps = [])
    (alpn : List Bytes) (localAddress : Option ListenAddr) (native : NativeResult) :
    TrackedStep tr n ⟨s, l, (s.afterStart (startWith s.inner alpn localAddress native)).toOut,
      (s.afterStart (startWith s.inner alpn localAddress native)).state⟩ := by
  have hidle (hn : n = .idle) (hstop : s.stopping = [])
      (hs : s.inner.state = .opened ∨ s.inner.state = .shutdownComplete) :
      TrackedStep tr n ⟨s, l, (s.afterStart (startWith s.inner alpn localAddress native)).toOut,
        (s.afterStart (startWith s.inner alpn localAddress native)).state⟩ := by
    subst hn
    cases native with
    | error e =>
      have hr : startWith s.inner alpn localAddress (.error e) =
          { state := s.inner
            result := .error (.otherError e)
            calls := [.start alpn localAddress (.error e)] } := by
        rcases hs with hs | hs <;> simp only [startWith, hs]
      rw [hr]
      refine ⟨⟨.idle, ?_, h.keep (fun h => by cases h) rfl rfl⟩, rfl⟩
      rw [nativeOps, hl]
      rfl
    | ok _ =>
      have hr : startWith s.inner alpn localAddress (.ok ()) =
          { state := { s.inner with state := .startComplete }
            result := .ok ()
            calls := [.start alpn localAddress (.ok ())] } := by
        rcases hs with hs | hs <;> simp only [startWith, hs]
      rw [hr]
      refine ⟨⟨.running, ?_, .running rfl hstop (hasStarted_cons.mpr (.inl rfl))⟩, rfl⟩
      rw [nativeOps, hl]
      rfl
  have hbusy (hn : n ≠ .idle) (hr : startWith s.inner alpn localAddress native =
      { state := s.inner, result := .error .alreadyStarted }) :
      TrackedStep tr n ⟨s, l, (s.afterStart (startWith s.inner alpn localAddress native)).toOut,
        (s.afterStart (startWith s.inner alpn localAddress native)).state⟩ := by
    rw [hr]
    refine .of_keep h ?_ (fun h => by cases h) rfl rfl hn
    rw [nativeOps, hl]
    rfl
  have hr := startWith.eq_def s.inner alpn localAddress native
  cases h with
  | opened hs hstop => exact hidle rfl hstop (.inl hs)
  | stopped hs hstop => exact hidle rfl hstop (.inr hs)
  | running hs | decided hs | stopping hs =>
    rw [hs] at hr
    exact hbusy (fun h => by cases h) hr

theorem Tracks.pollStop [WillWake ω] (h : Tracks tr s n) (fut : Nat) (cx : ω) :
    TrackedStep tr n ((listenerSystem NativeContract).take s (.pollStop fut cx)) := by
  have htake : (listenerSystem NativeContract).take s (.pollStop fut cx) =
      ⟨s, .pollStop fut cx, (s.step (.pollStop fut cx)).toOut,
        (s.step (.pollStop fut cx)).state⟩ := rfl
  rw [htake]
  cases h with
  | opened hs hstop hst =>
    simp only [ListenerSys.step, Listener.pollStop, hs]
    exact .of_keep (.opened hs hstop hst) rfl (fun h => by cases h) rfl rfl ⟨rfl, hst⟩
  | running hs hstop hst =>
    simp only [ListenerSys.step, Listener.pollStop, hs]
    exact ⟨⟨.running, rfl, .decided rfl fut (congrArg _ hstop) (hasStarted_cons.mpr (.inr hst))⟩,
      fun h => by cases h⟩
  | decided hs fut' hstop hst =>
    simp only [ListenerSys.step, Listener.pollStop, hs]
    exact .of_keep (.decided hs fut' hstop hst) rfl (fun h => by cases h) hs.symm rfl
      fun h => by cases h
  | stopping hs hstop hst =>
    simp only [ListenerSys.step, Listener.pollStop, hs]
    exact .of_keep (.stopping hs hstop hst) rfl (fun h => by cases h) hs.symm rfl
      fun h => by cases h
  | stopped hs hstop hst =>
    simp only [ListenerSys.step, Listener.pollStop, hs]
    exact .of_keep (.stopped hs hstop hst) rfl (fun h => by cases h) rfl rfl ⟨rfl, hst⟩

theorem Tracks.pollAccept [WillWake ω] (h : Tracks tr s n) (cx : ω) :
    TrackedStep tr n ((listenerSystem NativeContract).take s (.pollAccept cx)) := by
  have htake : (listenerSystem NativeContract).take s (.pollAccept cx) =
      ⟨s, .pollAccept cx, (s.step (.pollAccept cx)).toOut, (s.step (.pollAccept cx)).state⟩ := rfl
  rw [htake]
  cases hq : s.inner.newConnections with
  | cons connection rest =>
    simp only [ListenerSys.step, Listener.pollAccept, hq]
    exact .of_keep h rfl (fun h => by cases h) rfl rfl trivial
  | nil =>
    cases h with
    | opened hs hstop hst =>
      simp only [ListenerSys.step, Listener.pollAccept, hq, hs]
      exact .of_keep (.opened hs hstop hst) rfl (fun h => by cases h) rfl rfl ⟨rfl, hst⟩
    | running hs hstop hst =>
      simp only [ListenerSys.step, Listener.pollAccept, hq, hs]
      exact .of_keep (.running hs hstop hst) rfl (fun h => by cases h) hs.symm rfl
        fun h => by cases h
    | decided hs fut' hstop hst =>
      simp only [ListenerSys.step, Listener.pollAccept, hq, hs]
      exact .of_keep (.decided hs fut' hstop hst) rfl (fun h => by cases h) hs.symm rfl
        fun h => by cases h
    | stopping hs hstop hst =>
      simp only [ListenerSys.step, Listener.pollAccept, hq, hs]
      exact .of_keep (.stopping hs hstop hst) rfl (fun h => by cases h) hs.symm rfl
        fun h => by cases h
    | stopped hs hstop hst =>
      simp only [ListenerSys.step, Listener.pollAccept, hq, hs]
      exact .of_keep (.stopped hs hstop hst) rfl (fun h => by cases h) rfl rfl ⟨rfl, hst⟩

theorem Tracks.nativeStop [WillWake ω] (h : Tracks tr s n) {fut : Nat} (hfut : fut ∈ s.stopping) :
    TrackedStep tr n ((listenerSystem NativeContract).take s (.nativeStop fut)) := by
  cases h with
  | opened _ hstop | running _ hstop | stopping _ hstop | stopped _ hstop =>
    rw [hstop] at hfut
    cases hfut
  | decided hs fut' hstop hst =>
    rw [hstop] at hfut
    obtain rfl := List.mem_singleton.mp hfut
    refine ⟨⟨.stopping, rfl, .stopping hs ?_ (hasStarted_cons.mpr (.inr hst))⟩, trivial⟩
    show s.stopping.erase fut = []
    rw [hstop, List.erase_cons_head]

theorem Tracks.stopComplete [WillWake ω] (h : Tracks tr s .stopping) (b : Bool) :
    TrackedStep tr .stopping ((listenerSystem NativeContract).take s (.stopComplete b)) := by
  cases h with
  | stopping hs hstop hst =>
    exact ⟨⟨.idle, rfl, .stopped rfl hstop (hasStarted_cons.mpr (.inr hst))⟩, trivial⟩

theorem handleEventNewConnection_frame (x : ListenerInnerExclusive ω) (connection : Nat)
    (clone : Option Nat) (box : Nat) (setParam setConfiguration : NativeResult) :
    let r := handleEventNewConnection x connection clone box setParam setConfiguration
    r.calls.filterMap ListenerCall.nativeOp? = [] ∧ r.state.state = x.state := by
  have hqueue (c : AcceptedConnection) :
      (queueConnection x c setConfiguration).calls.filterMap ListenerCall.nativeOp? = [] ∧
        (queueConnection x c setConfiguration).state.state = x.state := by
    cases setConfiguration <;> exact ⟨rfl, rfl⟩
  unfold handleEventNewConnection
  split
  · cases setParam with
    | error e => exact ⟨rfl, rfl⟩
    | ok _ => exact hqueue _
  · exact hqueue _

theorem Tracks.step [WillWake ω] (h : Tracks tr s n) {l : ListenerLabel ω}
    (hok : NativeContract tr s l) (hn : nativeListener.after nativeOps tr = some n) :
    TrackedStep tr n ((listenerSystem NativeContract).take s l) := by
  cases l with
  | start alpn localAddress native => exact h.start rfl alpn _ native
  | startOnPort alpn localPort native => exact h.start rfl alpn _ native
  | pollAccept cx => exact h.pollAccept cx
  | pollStop fut cx => exact h.pollStop fut cx
  | nativeStop fut => exact h.nativeStop hok.polls
  | setSslkeylogFile file =>
    have hframe : (setSslkeylogFile s.inner file).calls = [] ∧
        (setSslkeylogFile s.inner file).state.state = s.inner.state := by
      unfold setSslkeylogFile
      split <;> exact ⟨rfl, rfl⟩
    exact .of_keep h (congrArg (List.filterMap ListenerCall.nativeOp?) hframe.1) nofun hframe.2 rfl
      trivial
  | newConnection connection clone box setParam setConfiguration =>
    obtain ⟨hcalls, hstate⟩ := handleEventNewConnection_frame s.inner connection clone box setParam
      setConfiguration
    exact .of_keep h hcalls nofun hstate rfl trivial
  | stopComplete b =>
    obtain rfl : n = .stopping := Option.some.inj (hn.symm.trans (hok.stopped b rfl))
    exact h.stopComplete b

/-- The getters refuse exactly while no start has succeeded. -/
theorem Tracks.getters (h : Tracks tr s n) (native : Except Status (Option SocketAddr × UInt16)) :
    (localAddr s.inner native = .error .notStarted ↔ ¬ HasStarted tr) ∧
      (localPort s.inner native = .error .notStarted ↔ ¬ HasStarted tr) := by
  have hstarted (hst : HasStarted tr) (he : ensureStarted s.inner = .ok ()) :
      (localAddr s.inner native = .error .notStarted ↔ ¬ HasStarted tr) ∧
        (localPort s.inner native = .error .notStarted ↔ ¬ HasStarted tr) := by
    simp only [localAddr, localPort, he, hst, not_true_eq_false, iff_false]
    rcases native with e | ⟨_ | address, port⟩ <;> exact ⟨nofun, nofun⟩
  cases h with
  | opened hs hstop hst =>
    have he : ensureStarted s.inner = .error .notStarted := by simp only [ensureStarted, hs]
    simp only [localAddr, localPort, he]
    exact ⟨iff_of_true rfl hst, iff_of_true rfl hst⟩
  | running hs _ hst | decided hs _ _ hst | stopping hs _ hst | stopped hs _ hst =>
    exact hstarted hst (by simp only [ensureStarted, hs])

theorem run_tracks [WillWake ω] (h : (listenerSystem NativeContract).Run tr s) :
    ∃ n, nativeListener.after nativeOps tr = some n ∧ Tracks tr s n := by
  refine h.follows (T := Tracks) (fun s hi => ?_) fun tr s l m _ hok hm ht => (ht.step hok hm).1
  obtain rfl := hi
  exact .opened rfl rfl fun ⟨_, he, _⟩ => by cases he

/-- **Our listener tracks MsQuic's**: in every run MsQuic's listener takes all it is asked, ours
is where MsQuic's is, the address getters refuse exactly while no start has succeeded, and every
answer is true of MsQuic's listener when it is given. -/
theorem listener_tracks_native [WillWake ω] (h : (listenerSystem NativeContract).Run tr s) :
    (∃ n, nativeListener.after nativeOps tr = some n ∧ Tracks tr s n) ∧
    (∀ native, (localAddr s.inner native = .error .notStarted ↔ ¬ HasStarted tr) ∧
      (localPort s.inner native = .error .notStarted ↔ ¬ HasStarted tr)) ∧
    ∀ e tr', e :: tr' <:+ tr →
      ∃ n, nativeListener.after nativeOps tr' = some n ∧ e.out.result.Fits tr' n := by
  obtain ⟨n, hn, ht⟩ := run_tracks h
  refine ⟨⟨n, hn, ht⟩, ht.getters, fun e tr' hsuf => ?_⟩
  obtain ⟨hr, hok, he⟩ := h.of_suffix hsuf
  obtain ⟨n', hn', ht'⟩ := run_tracks hr
  rw [he]
  exact ⟨n', hn', (ht'.step hok hn').2⟩

end

/-- A stop that is under way when a start is refused, and a restart after it. -/
theorem listener_tracks_native_restart :
    ∃ (tr : List (ListenerStep Nat)) (s : ListenerSys Nat),
      (listenerSystem NativeContract).Run tr s ∧ tr.map Step.label =
        [.startOnPort [] (some 443) (.ok ()), .pollStop 1 7, .stopComplete false,
          .start [] none (.ok ()), .nativeStop 1, .pollStop 1 7, .pollAccept 3,
          .start [] none (.ok ())] ∧
      asked nativeOps tr =
        [.start (.ok ()), .stop, .stopComplete, .start (.ok ())] ∧
      ∃ n, nativeListener.after nativeOps tr = some n ∧ Tracks tr s n := by
  have h0 := System.Run.start (S := listenerSystem (ω := Nat) NativeContract) rfl
  have h1 := h0.step (.start [] none (.ok ())) (by exact ⟨trivial, nofun⟩)
  have h2 := h1.step (.pollAccept 3) (by exact ⟨trivial, nofun⟩)
  have h3 := h2.step (.pollStop 1 7) (by exact ⟨nofun, nofun⟩)
  have h4 := h3.step (.nativeStop 1) (by exact ⟨List.mem_cons_self, nofun⟩)
  have h5 := h4.step (.start [] none (.ok ())) (by exact ⟨trivial, nofun⟩)
  have h6 := h5.step (.stopComplete false) (by exact ⟨trivial, fun _ _ => rfl⟩)
  have h7 := h6.step (.pollStop 1 7) (by exact ⟨nofun, nofun⟩)
  have h8 := h7.step (.startOnPort [] (some 443) (.ok ())) (by exact ⟨trivial, nofun⟩)
  exact ⟨_, _, h8, rfl, rfl, (listener_tracks_native h8).1⟩

end MsquicAsync
