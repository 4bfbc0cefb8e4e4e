import MsquicAsync.H3.Opening

/-!
# Openers over whole runs

In every interleaving of any number of openers on one connection each stream that
MsQuic has opened is started once, and is then handed out, given up (with an
error, a panic or the opener), or still held. A poll hands out the stream that it
held and only that, in the halves its caller expects; what it can panic on is the
error it converts, or a start that failed without an explanation
(`openers_exact`).
-/

namespace MsquicAsync

open Runs Ranges

namespace H3

variable {R ω β ι : Type}

/-! ## Runs of a connection and its openers -/

inductive OpenerLabel (ι ω : Type) where
  | conn (l : ConnectionLabel ω)
  /-- An event on the stream that an opener holds. -/
  | stream (i : ι) (t : StreamType) (ev : MsquicStreamEvent)
  /-- `poll_open_bidi` or `poll_open_send`. -/
  | poll (i : ι) (t : StreamType) (cx : ω) (opened native : NativeResult)
  | close (code : UInt64)
  /-- The opener is dropped, and a clone of another takes its place. -/
  | renew (i : ι)

inductive OpenerRes (R ω β : Type) where
  | conn (r : ConnectionRes)
  | stream (r : StreamRes)
  | bidi (r : Outcome (Poll (Except OpenErrorIncoming (BidiStream (StreamSys R ω) β))))
  | send (r : Outcome (Poll (Except OpenErrorIncoming (SendStream (StreamSys R ω) β))))
  | done

structure OpenerSys (ι R ω : Type) where
  conn : ConnectionSys ω
  openers : ι → OpenStreams R ω

namespace OpenerSys

variable [DecidableEq ι] [WillWake ω] [StatusApi] [RangeSet R]

def setOpener (s : OpenerSys ι R ω) (i : ι) (x : OpenStreams R ω) : OpenerSys ι R ω :=
  { s with openers := Function.update s.openers i x }

def step (β : Type) (w : Nat) (s : OpenerSys ι R ω) :
    OpenerLabel ι ω → Ran (OpenerSys ι R ω) ω OpenCall (OpenerRes R ω β)
  | .conn l =>
    let r := s.conn.step l
    { state := { s with conn := r.state }
      result := .conn r.result
      woken := r.woken
      calls := r.calls.map .connection }
  | .stream i t ev =>
    match (s.openers i).slot t with
    | some (.future ⟨streamType, some x, failOnBlocked⟩) =>
      let r := x.dispatchEvent w ev
      { state := s.setOpener i
          ((s.openers i).put t (some (.future ⟨streamType, some r.state, failOnBlocked⟩)))
        result := .stream r.result
        woken := r.woken
        calls := r.calls.map .stream }
    | _ => { state := s, result := .done }
  | .poll i .bidirectional cx opened native =>
    ((s.openers i).pollOpenBidi s.conn.inner cx opened native).lift
      (fun p => { s with conn := { s.conn with inner := p.1 } }.setOpener i p.2) .bidi
  | .poll i .unidirectional cx opened native =>
    ((s.openers i).pollOpenSend s.conn.inner cx opened native).lift
      (fun p => { s with conn := { s.conn with inner := p.1 } }.setOpener i p.2) .send
  | .close code =>
    let r := OpenStreams.close s.conn.inner code
    { state := { s with conn := { s.conn with inner := r.state } }
      result := .done
      woken := r.woken
      calls := r.calls.map .connection }
  | .renew i => { state := s.setOpener i .new, result := .done }

/-- Openers of a connection that have not been polled. -/
structure Init (s : OpenerSys ι R ω) : Prop where
  conn : ConnectionSys.Init s.conn
  openers : ∀ i, s.openers i = .new

/-- The stream of kind `t` that opener `i` holds. -/
def held (s : OpenerSys ι R ω) (i : ι) (t : StreamType) : Option (StreamSys R ω) :=
  ((s.openers i).slot t).bind Unfold.held

end OpenerSys

abbrev OpenerStep (ι R ω β : Type) :=
  Step (OpenerSys ι R ω) (OpenerLabel ι ω) (Out ω OpenCall (OpenerRes R ω β))

/-- A connection and its openers; nothing is asked of MsQuic. -/
def openerSystem (ι R ω β : Type) [DecidableEq ι] [RangeSet R] [WillWake ω] [StatusApi] (w : Nat) :
    System (OpenerSys ι R ω) (OpenerLabel ι ω) (Out ω OpenCall (OpenerRes R ω β)) where
  init := OpenerSys.Init
  ok _ _ _ := True
  next s l := ((s.step β w l).state, (s.step β w l).toOut)

/-! ## What happens to a stream -/

/-- MsQuic has opened a stream. -/
def opensStream : OpenCall → Bool
  | .streamOpen _ (.ok ()) => true
  | _ => false

/-- A stream is started. -/
def startsStream : OpenCall → Bool
  | .stream (.start _ _) => true
  | _ => false

@[simp] theorem opensStream_ok (t : StreamType) : opensStream (.streamOpen t (.ok ())) = true := rfl
@[simp] theorem opensStream_error (t : StreamType) (e : Status) :
    opensStream (.streamOpen t (.error e)) = false := rfl
@[simp] theorem opensStream_stream (c : StreamCall) : opensStream (.stream c) = false := rfl
@[simp] theorem startsStream_open (t : StreamType) (r : NativeResult) :
    startsStream (.streamOpen t r) = false := rfl
@[simp] theorem startsStream_start (b : Bool) (r : NativeResult) :
    startsStream (.stream (.start b r)) = true := rfl

/-- The poll answers with a stream. -/
def OpenerRes.Yields : OpenerRes R ω β → Bool
  | bidi (.returned (.ready (.ok _))) | send (.returned (.ready (.ok _))) => true
  | _ => false

/-- The poll is pending. -/
def OpenerRes.Waits : OpenerRes R ω β → Bool
  | bidi (.returned .pending) | send (.returned .pending) => true
  | _ => false

section

variable [DecidableEq ι]

def OpenerLabel.IsPoll (i : ι) (t : StreamType) : OpenerLabel ι ω → Bool
  | poll i' t' _ _ _ => i' = i ∧ t' = t
  | _ => false

def OpenerLabel.IsRenew (i : ι) : OpenerLabel ι ω → Bool
  | renew i' => i' = i
  | _ => false

/-- The streams that the step opened for `i` as a `t`. -/
def opensIn (i : ι) (t : StreamType) (e : OpenerStep ι R ω β) : Nat :=
  if e.label.IsPoll i t then e.out.calls.countP opensStream else 0

def startsIn (i : ι) (t : StreamType) (e : OpenerStep ι R ω β) : Nat :=
  if e.label.IsPoll i t then e.out.calls.countP startsStream else 0

def yieldsIn (i : ι) (t : StreamType) (e : OpenerStep ι R ω β) : Nat :=
  if e.label.IsPoll i t ∧ e.out.result.Yields then 1 else 0

/-- The step gave up a stream that was held or that it had opened: the poll neither waits nor
answers with it, or the opener is dropped. -/
def discardsIn (i : ι) (t : StreamType) (e : OpenerStep ι R ω β) : Nat :=
  if e.label.IsPoll i t ∧ ¬ e.out.result.Yields ∧ ¬ e.out.result.Waits then
    (e.pre.held i t).toList.length + opensIn i t e
  else if e.label.IsRenew i then (e.pre.held i t).toList.length
  else 0

/-- The streams of a slot, before and after a step. -/
structure Accounted (i : ι) (t : StreamType) (e : OpenerStep ι R ω β) : Prop where
  balance : opensIn i t e + (e.pre.held i t).toList.length =
    yieldsIn i t e + discardsIn i t e + (e.post.held i t).toList.length
  started : startsIn i t e = opensIn i t e

end

/-! ## Answers -/

section

variable [StatusApi] {t : StreamType}

/-- What the poll of a `t` makes of the future's answer. -/
def OpenerRes.answer (t : StreamType) (r : OpenResult R ω) : OpenerRes R ω β :=
  let r := r.bind (mapPollErr fun e => (convertStartError e).map .connectionErrorIncoming)
  match t with
  | .bidirectional => .bidi (r.bind (mapPollOk splitBidi))
  | .unidirectional => .send (r.bind (mapPollOk splitSend))

/-- The answer of a poll of a `t` that hands out `x`. -/
def OpenerRes.handed (t : StreamType) (x : StreamSys R ω) : OpenerRes R ω β :=
  match t with
  | .bidirectional => .bidi (.returned (.ready (.ok { send := .new x, recv := .new x })))
  | .unidirectional => .send (.returned (.ready (.ok (.new x))))

def OpenerRes.Panics : OpenerRes R ω β → Prop
  | bidi r => r.Panics
  | send r => r.Panics
  | _ => False

theorem OpenerRes.answer_ok {x : StreamSys R ω} (h : x.inner.Opening t) :
    (answer t (.returned (.ready (.ok x))) : OpenerRes R ω β) = handed t x := by
  cases t with
  | bidirectional =>
    have hs : Stream.split x = (some x, some x) := by simp only [Stream.split, h.streamType]
    simp only [answer, handed, Outcome.bind, mapPollErr, mapErr, Outcome.map, mapPollOk,
      splitBidi, hs]
  | unidirectional =>
    have hs : Stream.split x = (none, some x) := by
      simp only [Stream.split, h.streamType, h.localOpen]
    simp only [answer, handed, Outcome.bind, mapPollErr, mapErr, Outcome.map, mapPollOk,
      splitSend, hs]

omit [StatusApi] in
theorem OpenerRes.handed_yields {x : StreamSys R ω} :
    (handed t x : OpenerRes R ω β).Yields = true ∧ (handed t x : OpenerRes R ω β).Waits = false ∧
      ¬ (handed t x : OpenerRes R ω β).Panics := by cases t <;> exact ⟨rfl, rfl, id⟩

theorem OpenerRes.answer_pending :
    (answer t (.returned .pending) : OpenerRes R ω β).Yields = false ∧
      (answer t (.returned .pending) : OpenerRes R ω β).Waits = true ∧
      ¬ (answer t (.returned .pending) : OpenerRes R ω β).Panics := by
  cases t <;> exact ⟨rfl, rfl, id⟩

theorem OpenerRes.answer_panicked {m : String} :
    (answer t (.panicked m) : OpenerRes R ω β).Yields = false ∧
      (answer t (.panicked m) : OpenerRes R ω β).Waits = false := by
  cases t <;> exact ⟨rfl, rfl⟩

theorem OpenerRes.answer_error {e : StreamStartError} :
    (answer t (.returned (.ready (.error e))) : OpenerRes R ω β).Yields = false ∧
      (answer t (.returned (.ready (.error e))) : OpenerRes R ω β).Waits = false ∧
      ((answer t (.returned (.ready (.error e))) : OpenerRes R ω β).Panics →
        ∃ c, e = .connectionLost c ∧ (convertConnectionError c).Panics) := by
  have hpanics : (convertStartError e).Panics →
      ∃ c, e = .connectionLost c ∧ (convertConnectionError c).Panics := by
    cases e with
    | connectionLost c =>
      intro h
      refine ⟨c, rfl, ?_⟩
      simp only [convertStartError] at h
      cases hc : convertConnectionError c with
      | returned => rw [hc] at h; exact h.elim
      | panicked => trivial
    | _ => exact fun h => h.elim
  unfold answer
  simp only [Outcome.bind_returned, mapPollErr, mapErr]
  cases hc : convertStartError e with
  | returned e' => cases t <;> exact ⟨rfl, rfl, fun h => h.elim⟩
  | panicked m =>
    rw [hc] at hpanics
    cases t <;> exact ⟨rfl, rfl, fun _ => hpanics trivial⟩

end

/-- **A poll balances**: a stream that was held or has been opened is handed out, given up or
still held, and it is started as it is opened. -/
theorem Unfold.Polled.account [StatusApi] {t : StreamType} {conn : ConnectionInnerExclusive ω}
    {u u' : Unfold R ω} {calls : List OpenCall} {r : OpenResult R ω}
    (h : Polled t conn u calls r u') :
    calls.countP opensStream + u.held.toList.length =
        (if (OpenerRes.answer t r : OpenerRes R ω β).Yields then 1 else 0) +
          (if ¬ (OpenerRes.answer t r : OpenerRes R ω β).Yields ∧
              ¬ (OpenerRes.answer t r : OpenerRes R ω β).Waits then
            u.held.toList.length + calls.countP opensStream
          else 0) + u'.held.toList.length ∧
      calls.countP startsStream = calls.countP opensStream := by
  have herror (e : StreamStartError) := OpenerRes.answer_error (R := R) (ω := ω) (β := β) (t := t)
    (e := e)
  have hpending := OpenerRes.answer_pending (R := R) (ω := ω) (β := β) (t := t)
  have hpanicked (m : String) := OpenerRes.answer_panicked (R := R) (ω := ω) (β := β) (t := t)
    (m := m)
  cases h with
  | poisoned hu => simp [hpanicked, hu]
  | refused hc e he => simp [herror]
  | waits hc hf => simp [hpending, held_future, hf]
  | openFails hc hu e => simp [herror, hu.1]
  | startFails hc hu e => simp [herror, hu.1, List.countP_cons]
  | starts hc hu hx => simp [hpending, hu.1, hx, List.countP_cons]
  | starting hc hx hy => simp [hpending, hx, hy]
  | yields hc hx ht => simp [OpenerRes.answer_ok ht, OpenerRes.handed_yields, hx]
  | fails hc hx e he => simp [herror, hx]
  | panics hc hx m h => simp [hpanicked, hx]

section

variable [StatusApi] {t : StreamType} {conn : ConnectionInnerExclusive ω} {u u' : Unfold R ω}
  {calls : List OpenCall} {r : OpenResult R ω}

omit [StatusApi] in
theorem Unfold.held_ne_poisoned {x : StreamSys R ω} (h : u.held = some x) : u ≠ .poisoned := by
  rintro rfl
  cases h

theorem Unfold.Polled.opens_iff (h : Polled t conn u calls r u') :
    (∃ r, .streamOpen t r ∈ calls) ↔ conn.state = .connected ∧ u.Free := by
  have hnone {x : StreamSys R ω} (hx : u.held = some x) :
      (∃ r, .streamOpen t r ∈ ([] : List OpenCall)) ↔ conn.state = .connected ∧ u.Free :=
    iff_of_false nofun fun h => by cases hx.symm.trans h.2.1
  cases h with
  | poisoned hu => exact iff_of_false nofun fun h => h.2.2 hu
  | refused hc | waits hc => exact iff_of_false nofun fun h => hc h.1
  | openFails hc hu | startFails hc hu | starts hc hu =>
    exact iff_of_true ⟨_, List.mem_cons_self⟩ ⟨hc, hu⟩
  | starting hc hx | yields hc hx | fails hc hx | panics hc hx => exact hnone hx

theorem Unfold.Polled.yields_held (h : Polled t conn u calls r u')
    (hy : (OpenerRes.answer t r : OpenerRes R ω β).Yields = true) :
    ∃ x, u.held = some x ∧ x.inner.Opening t ∧
      (OpenerRes.answer t r : OpenerRes R ω β) = .handed t x := by
  have herror (e : StreamStartError)
      (hy : (OpenerRes.answer t (.returned (.ready (.error e))) : OpenerRes R ω β).Yields = true) :
      False := Bool.noConfusion (OpenerRes.answer_error.1.symm.trans hy)
  cases h with
  | yields hc hx ht => exact ⟨_, hx, ht, OpenerRes.answer_ok ht⟩
  | poisoned | panics => exact Bool.noConfusion (OpenerRes.answer_panicked.1.symm.trans hy)
  | waits | starts | starting => exact Bool.noConfusion (OpenerRes.answer_pending.1.symm.trans hy)
  | refused | openFails | startFails | fails => exact (herror _ hy).elim

theorem Unfold.Polled.panics_cause (h : Polled t conn u calls r u')
    (hp : (OpenerRes.answer t r : OpenerRes R ω β).Panics) :
    u = .poisoned ∨ (∃ x, u.held = some x ∧ x.inner.Unexplained) ∨
      ∃ c, (convertConnectionError c).Panics ∧ (conn.error = some c ∨
        ∃ x, u.held = some x ∧ x.inner.connError = some c) := by
  cases h with
  | poisoned hu => exact .inl hu
  | panics hc hx m hm => exact .inr (.inl ⟨_, hx, hm⟩)
  | yields hc hx ht =>
    rw [OpenerRes.answer_ok ht] at hp
    exact (OpenerRes.handed_yields.2.2 hp).elim
  | waits | starts | starting => exact (OpenerRes.answer_pending.2.2 hp).elim
  | refused hc e he =>
    obtain ⟨c, rfl, hconv⟩ := OpenerRes.answer_error.2.2 hp
    exact .inr (.inr ⟨c, hconv, .inl (he c rfl)⟩)
  | openFails | startFails =>
    obtain ⟨c, hce, -⟩ := OpenerRes.answer_error.2.2 hp
    cases hce
  | fails hc hx e he =>
    obtain ⟨c, rfl, hconv⟩ := OpenerRes.answer_error.2.2 hp
    exact .inr (.inr ⟨c, hconv, .inr ⟨_, hx, he c rfl⟩⟩)

/-- Only a start that has failed unexplained poisons the future. -/
theorem Unfold.Polled.poisons (h : Polled t conn u calls r u') (hu' : u' = .poisoned) :
    u = .poisoned ∨ ∃ x, u.held = some x ∧ x.inner.Unexplained := by
  cases h with
  | poisoned hu => exact .inl hu
  | panics hc hx m hm => exact .inr ⟨_, hx, hm⟩
  | starts hc hu hx => exact absurd hu' (held_ne_poisoned hx)
  | starting hc hx hy => exact absurd hu' (held_ne_poisoned hy)
  | _ => cases hu'

end

/-! ## Steps -/

namespace OpenerSys

variable [DecidableEq ι] [WillWake ω] [StatusApi] [RangeSet R] {w : Nat} {s : OpenerSys ι R ω}
  {i j : ι} {t : StreamType}

omit [StatusApi] [WillWake ω] [RangeSet R] in
theorem slot_setOpener (u : Option (Unfold R ω)) (t' : StreamType) :
    (((s.setOpener j ((s.openers j).put t' u)).openers i).slot t) =
      if i = j ∧ t = t' then u else (s.openers i).slot t := by
  simp only [setOpener]
  by_cases hi : i = j
  · subst hi
    rw [Function.update_self]
    by_cases ht : t = t'
    · subst ht
      rw [OpenStreams.slot_put, if_pos ⟨rfl, rfl⟩]
    · rw [OpenStreams.slot_put_of_ne _ ht, if_neg fun h => ht h.2]
  · rw [Function.update_of_ne hi, if_neg fun h => hi h.1]

theorem step_poll (cx : ω) (opened native : NativeResult) :
    s.step β w (.poll i t cx opened native) =
      let r := (((s.openers i).slot t).getD .value).pollNext t s.conn.inner cx opened native
      { state := { s with conn := { s.conn with inner := r.state.1 } }.setOpener i
          ((s.openers i).put t (some r.state.2))
        result := .answer t r.result
        woken := r.woken
        calls := r.calls } := by cases t <;> rfl

/-- What holds of a connection and its openers. -/
structure Sound (s : OpenerSys ι R ω) : Prop where
  conn : s.conn.inner.Explained
  slots : ∀ i t u, (s.openers i).slot t = some u → u.Sound t

omit [WillWake ω] [RangeSet R] [DecidableEq ι] [StatusApi] in
theorem Sound.getD (h : s.Sound) : (((s.openers i).slot t).getD .value).Sound t := by
  cases hu : (s.openers i).slot t with
  | none => exact Unfold.sound_value
  | some u => exact h.slots i t u hu

omit [WillWake ω] [StatusApi] [RangeSet R] [DecidableEq ι] in
theorem held_getD : (((s.openers i).slot t).getD .value).held = s.held i t := by
  unfold held
  cases (s.openers i).slot t <;> rfl

theorem opening_event {x : StreamSys R ω} (h : x.inner.Opening t) (ev : MsquicStreamEvent) :
    (x.dispatchEvent w ev).state.inner.Opening t := by
  obtain ⟨hlocal, htype, -⟩ := StreamSys.step_shared (w := w) (s := x) (.event ev)
  refine ⟨htype.trans h.streamType, hlocal.trans h.localOpen, ?_⟩
  rcases (StreamSys.event_sendStep (w := w) (s := x) ev).of_event with hs | ⟨hs, -⟩ | ⟨hs, -⟩
  · rw [hs]
    exact h.state
  · rw [hs]
    exact nofun
  · rw [hs]
    exact nofun

omit [DecidableEq ι] [WillWake ω] [StatusApi] [RangeSet R] in
theorem explained_congr {x y : ConnectionInnerExclusive ω} (h : y.lifecycle = x.lifecycle)
    (hx : x.Explained) : y.Explained := by
  obtain ⟨hs, he⟩ := Prod.ext_iff.mp h
  simp only [ConnectionInnerExclusive.lifecycle] at hs he
  unfold ConnectionInnerExclusive.Explained
  rw [hs, he]
  exact hx

omit [StatusApi] [DecidableEq ι] [RangeSet R] in
theorem explained_step {c : ConnectionSys ω} (h : c.inner.Explained)
    (l : ConnectionLabel ω) : (c.step l).state.inner.Explained := by
  intro hs
  rw [c.step_state] at hs
  rw [c.step_error, Option.isSome_iff_ne_none]
  exact ConnectionState.nextError_ne_none (fun hc => Option.isSome_iff_ne_none.mp (h hc)) l hs

theorem Sound.step (h : s.Sound) (l : OpenerLabel ι ω) : (s.step β w l).state.Sound := by
  cases l with
  | conn l => exact ⟨explained_step h.conn l, h.slots⟩
  | close code => exact ⟨explained_step h.conn (.call (.shutdown code)), h.slots⟩
  | renew j =>
    refine ⟨h.conn, fun i t u hu => ?_⟩
    by_cases hi : i = j
    · subst hi
      simp only [OpenerSys.step, setOpener, Function.update_self] at hu
      cases t <;> cases hu
    · simp only [OpenerSys.step, setOpener, Function.update_of_ne hi] at hu
      exact h.slots i t u hu
  | stream j t' ev =>
    simp only [OpenerSys.step]
    split
    next streamType x failOnBlocked hslot =>
      refine ⟨h.conn, fun i t u hu => ?_⟩
      rw [slot_setOpener] at hu
      split at hu
      next hit =>
        cases hu
        obtain ⟨hf, ⟨hs, -⟩ | ⟨x', hx, ho⟩⟩ := h.slots j t' _ hslot _ rfl
        · cases hs
        · cases hx
          intro f hfu
          cases hfu
          exact ⟨hf, .inr ⟨_, rfl, hit.2 ▸ opening_event ho ev⟩⟩
      next => exact h.slots i t u hu
    · exact h
  | poll j t' cx opened native =>
    rw [step_poll]
    obtain ⟨-, hsound, hconn⟩ := Unfold.pollNext_spec h.conn h.getD cx opened native (t := t')
      (u := ((s.openers j).slot t').getD .value)
    refine ⟨?_, fun i t u hu => ?_⟩
    · exact explained_congr hconn h.conn
    · rw [slot_setOpener] at hu
      split at hu
      next hit =>
        cases hu
        exact hit.2 ▸ hsound
      next => exact h.slots i t u hu

theorem account_of_not_poll {l : OpenerLabel ι ω} (hl : l.IsPoll i t = false)
    (hheld : ((s.step β w l).state.held i t).toList.length +
      (if l.IsRenew i then (s.held i t).toList.length else 0) = (s.held i t).toList.length) :
    Accounted i t ((openerSystem ι R ω β w).take s l) := by
  have hpost : ((openerSystem ι R ω β w).take s l).post = (s.step β w l).state := rfl
  constructor
  · simp only [opensIn, yieldsIn, discardsIn, System.take_label, System.take_pre, hl, hpost,
      Bool.false_eq_true, if_false, false_and, zero_add]
    rw [add_comm]
    exact hheld.symm
  · simp only [opensIn, startsIn, System.take_label, hl, Bool.false_eq_true, if_false]

theorem account_poll {cx : ω} {opened native : NativeResult}
    (h : Unfold.PollNext t s.conn.inner (((s.openers i).slot t).getD .value)
      ((((s.openers i).slot t).getD .value).pollNext t s.conn.inner cx opened native)) :
    Accounted i t ((openerSystem ι R ω β w).take s (.poll i t cx opened native)) := by
  have htake : (openerSystem ι R ω β w).take s (.poll i t cx opened native) =
      ⟨s, .poll i t cx opened native, (s.step β w (.poll i t cx opened native)).toOut,
        (s.step β w (.poll i t cx opened native)).state⟩ := rfl
  have hl : (OpenerLabel.poll i t cx opened native : OpenerLabel ι ω).IsPoll i t = true := by
    simp [OpenerLabel.IsPoll]
  rw [htake, step_poll]
  have hheld : (((s.openers i).slot t).getD .value).held = s.held i t := held_getD
  generalize ((s.openers i).slot t).getD .value = u at h hheld
  generalize u.pollNext t s.conn.inner cx opened native = r at h
  have hpost : ({ s with conn := { s.conn with inner := r.state.1 } }.setOpener i
      ((s.openers i).put t (some r.state.2))).held i t = r.state.2.held := by
    simp only [held, slot_setOpener, and_self, if_true, Option.bind_some]
  obtain ⟨hbalance, hstarted⟩ := h.polled.account (β := β)
  rw [hheld] at hbalance
  constructor
  · simp only [opensIn, yieldsIn, discardsIn, hl, true_and, if_true]
    rw [hpost]
    exact hbalance
  · simp only [opensIn, startsIn, hl, if_true]
    exact hstarted

theorem step_account (h : s.Sound) (l : OpenerLabel ι ω) (i : ι) (t : StreamType) :
    Accounted i t ((openerSystem ι R ω β w).take s l) := by
  cases l with
  | conn l => exact account_of_not_poll rfl rfl
  | close code => exact account_of_not_poll rfl rfl
  | renew j =>
    refine account_of_not_poll rfl ?_
    by_cases hi : j = i
    · subst hi
      have hnone : (s.step β w (.renew j)).state.held j t = none := by
        simp only [step, held, setOpener, Function.update_self]
        cases t <;> rfl
      simp only [hnone, OpenerLabel.IsRenew, decide_true, if_true, Option.toList_none,
        List.length_nil, zero_add]
    · have hsame : (s.step β w (.renew j)).state.held i t = s.held i t := by
        simp only [step, held, setOpener, Function.update_of_ne (Ne.symm hi)]
      simp only [hsame, OpenerLabel.IsRenew, hi, decide_false, Bool.false_eq_true, if_false, add_zero]
  | stream j t' ev =>
    refine account_of_not_poll rfl ?_
    simp only [OpenerLabel.IsRenew, Bool.false_eq_true, if_false, add_zero, step]
    split
    next streamType x failOnBlocked hslot =>
      simp only [held, slot_setOpener]
      split
      next hit =>
        obtain ⟨rfl, rfl⟩ := hit
        rw [hslot]
        rfl
      next => rfl
    · rfl
  | poll j t' cx opened native =>
    by_cases hit : j = i ∧ t' = t
    · obtain ⟨rfl, rfl⟩ := hit
      exact account_poll (Unfold.pollNext_spec h.conn h.getD cx opened native)
    · have hl : (OpenerLabel.poll j t' cx opened native : OpenerLabel ι ω).IsPoll i t = false := by
        simpa [OpenerLabel.IsPoll] using hit
      refine account_of_not_poll hl ?_
      have hsame : (s.step β w (.poll j t' cx opened native)).state.held i t = s.held i t := by
        rw [step_poll]
        simp only [held, slot_setOpener]
        rw [if_neg fun h => hit ⟨h.1.symm, h.2.symm⟩]
      simp only [hsame, OpenerLabel.IsRenew, Bool.false_eq_true, if_false, add_zero]

theorem run_sound {tr : List (OpenerStep ι R ω β)} (h : (openerSystem ι R ω β w).Run tr s) :
    s.Sound := by
  refine h.invariant_state (I := Sound) (fun s hi => ⟨?_, fun i t u hu => ?_⟩)
    fun tr s l _ _ hs => hs.step l
  · have hc := hi.conn
    generalize s.conn = c at hc ⊢
    cases hc with
    | new => exact fun h => by rcases h with h | h <;> cases h
    | fromRaw => exact fun h => by rcases h with h | h <;> cases h
  · rw [hi.openers i] at hu
    cases t <;> cases hu

end OpenerSys

/-! ## Exact openers -/

section

variable [DecidableEq ι] [StatusApi] {w : Nat} {i : ι} {t : StreamType}

/-- The sum of `f` over a history. -/
def total (f : OpenerStep ι R ω β → Nat) (tr : List (OpenerStep ι R ω β)) : Nat := (tr.map f).sum

/-- A poll of a slot that holds a stream whose start has failed unexplained. -/
def UnexplainedPoll (i : ι) (t : StreamType) (e : OpenerStep ι R ω β) : Prop :=
  e.label.IsPoll i t = true ∧ ∃ x, e.pre.held i t = some x ∧ x.inner.Unexplained

/-- What a poll of a slot does after the history `tr`. -/
structure PollExact (i : ι) (t : StreamType) (tr : List (OpenerStep ι R ω β))
    (e : OpenerStep ι R ω β) : Prop where
  /-- It opens a stream on a connected connection where it holds none. -/
  opens : (∃ r, .streamOpen t r ∈ e.out.calls) ↔ e.pre.conn.inner.state = .connected ∧
    e.pre.held i t = none ∧ (e.pre.openers i).slot t ≠ some .poisoned
  /-- It hands out the stream that it held. -/
  yields : e.out.result.Yields = true →
    ∃ x, e.pre.held i t = some x ∧ x.inner.Opening t ∧ e.out.result = .handed t x
  /-- It panics on a start that failed unexplained, or in the conversion of a lost connection's
  error. -/
  panics : e.out.result.Panics → (∃ e' ∈ e :: tr, UnexplainedPoll i t e') ∨
    ∃ c, (convertConnectionError c).Panics ∧ (e.pre.conn.inner.error = some c ∨
      ∃ x, e.pre.held i t = some x ∧ x.inner.connError = some c)

omit [DecidableEq ι] [StatusApi] in
theorem OpenerSys.getD_eq_poisoned {s : OpenerSys ι R ω} :
    ((s.openers i).slot t).getD .value = .poisoned ↔ (s.openers i).slot t = some .poisoned := by
  cases (s.openers i).slot t with
  | none => exact iff_of_false nofun nofun
  | some u => exact Option.some_inj.symm

variable [WillWake ω] [RangeSet R] {s : OpenerSys ι R ω} {tr : List (OpenerStep ι R ω β)}

theorem run_poisoned (h : (openerSystem ι R ω β w).Run tr s)
    (hp : (s.openers i).slot t = some .poisoned) : ∃ e ∈ tr, UnexplainedPoll i t e := by
  revert i t
  refine h.invariant (I := fun tr s => ∀ {i t}, (s.openers i).slot t = some .poisoned →
    ∃ e ∈ tr, UnexplainedPoll i t e) (fun s hi i t hp => ?_) fun tr s l hr _ ih i t hp => ?_
  · rw [hi.openers i] at hp
    cases t <;> cases hp
  · change ((s.step β w l).state.openers i).slot t = _ at hp
    have hsame (hp : (s.openers i).slot t = some .poisoned) :=
      List.exists_mem_cons_of_exists (a := (openerSystem ι R ω β w).take s l) (ih hp)
    cases l with
    | conn l => exact hsame hp
    | close code => exact hsame hp
    | renew j =>
      by_cases hi : i = j
      · subst hi
        simp only [OpenerSys.step, OpenerSys.setOpener, Function.update_self] at hp
        cases t <;> cases hp
      · simp only [OpenerSys.step, OpenerSys.setOpener, Function.update_of_ne hi] at hp
        exact hsame hp
    | stream j t' ev =>
      simp only [OpenerSys.step] at hp
      split at hp
      · rw [OpenerSys.slot_setOpener] at hp
        split at hp
        · cases hp
        · exact hsame hp
      · exact hsame hp
    | poll j t' cx opened native =>
      rw [OpenerSys.step_poll, OpenerSys.slot_setOpener] at hp
      split at hp
      next hit =>
        obtain ⟨rfl, rfl⟩ := hit
        have hspec := Unfold.pollNext_spec (OpenerSys.run_sound hr).conn
          (OpenerSys.run_sound hr).getD cx opened native (t := t)
          (u := ((s.openers i).slot t).getD .value)
        rcases hspec.polled.poisons (Option.some.inj hp) with hu | hx
        · exact hsame (OpenerSys.getD_eq_poisoned.mp hu)
        · rw [OpenerSys.held_getD] at hx
          exact ⟨_, List.mem_cons_self, by simp [OpenerLabel.IsPoll], hx⟩
      next => exact hsame hp

theorem run_pollExact (h : (openerSystem ι R ω β w).Run tr s) (cx : ω) (opened native : NativeResult) :
    PollExact i t tr ((openerSystem ι R ω β w).take s (.poll i t cx opened native)) := by
  have hspec := Unfold.pollNext_spec (OpenerSys.run_sound h).conn (OpenerSys.run_sound h).getD cx
    opened native (t := t) (u := ((s.openers i).slot t).getD .value)
  have hout : ((openerSystem ι R ω β w).take s (.poll i t cx opened native)).out =
      (s.step β w (.poll i t cx opened native)).toOut := rfl
  rw [OpenerSys.step_poll] at hout
  refine ⟨?_, ?_, ?_⟩
  · rw [hout, hspec.polled.opens_iff, Unfold.Free, OpenerSys.held_getD, Ne,
      OpenerSys.getD_eq_poisoned]
    rfl
  · rw [hout]
    intro hy
    obtain ⟨x, hx, ht⟩ := hspec.polled.yields_held hy
    exact ⟨x, OpenerSys.held_getD.symm.trans hx, ht⟩
  · rw [hout]
    intro hp
    rcases hspec.polled.panics_cause hp with hu | hx | hc
    · exact .inl (List.exists_mem_cons_of_exists
        (run_poisoned h (OpenerSys.getD_eq_poisoned.mp hu)))
    · rw [OpenerSys.held_getD] at hx
      exact .inl ⟨_, List.mem_cons_self, by simp [OpenerLabel.IsPoll], hx⟩
    · rw [OpenerSys.held_getD] at hc
      exact .inr hc

/-- **No opener loses a stream**: in every run each stream that MsQuic opened for a slot was
started once and has been handed out, given up, or is still held; and each poll of the slot does
what `PollExact` says. -/
theorem openers_exact (h : (openerSystem ι R ω β w).Run tr s) (i : ι) (t : StreamType) :
    total (opensIn i t) tr =
        total (yieldsIn i t) tr + total (discardsIn i t) tr + (s.held i t).toList.length ∧
      total (startsIn i t) tr = total (opensIn i t) tr ∧
      ∀ e tr', e :: tr' <:+ tr → e.label.IsPoll i t → PollExact i t tr' e := by
  refine ⟨?_, ?_, fun e tr' hsuf hl => ?_⟩
  · refine h.invariant (I := fun tr s => total (opensIn i t) tr =
      total (yieldsIn i t) tr + total (discardsIn i t) tr + (s.held i t).toList.length)
      (fun s hi => ?_) fun tr s l hr _ ih => ?_
    · simp only [OpenerSys.held, hi.openers i]
      cases t <;> rfl
    · have hb := (OpenerSys.step_account (w := w) (β := β) (OpenerSys.run_sound hr) l i t).balance
      simp only [total, List.map_cons, List.sum_cons, System.take_pre] at ih hb ⊢
      change _ = _ + (((openerSystem ι R ω β w).take s l).post.held i t).toList.length
      omega
  · refine h.invariant (I := fun tr s => total (startsIn i t) tr = total (opensIn i t) tr)
      (fun _ _ => rfl) fun tr s l hr _ ih => ?_
    have hs := (OpenerSys.step_account (w := w) (β := β) (OpenerSys.run_sound hr) l i t).started
    simp only [total, List.map_cons, List.sum_cons] at ih ⊢
    rw [hs, ih]
  · obtain ⟨hr, -, he⟩ := h.of_suffix hsuf
    rw [he]
    cases hlabel : e.label with
    | poll j t' cx opened native =>
      rw [hlabel] at hl
      obtain ⟨rfl, rfl⟩ : j = i ∧ t' = t := by simpa [OpenerLabel.IsPoll] using hl
      exact run_pollExact hr cx opened native
    | _ => rw [hlabel] at hl; cases hl

end

/-- One stream is handed out, and one given up whose start fails. -/
theorem openers_exact_two :
    ∃ (tr : List (OpenerStep Nat Coalesced Nat Bytes)) (s : OpenerSys Nat Coalesced Nat),
      (openerSystem Nat Coalesced Nat Bytes 64).Run tr s ∧ tr.map Step.label =
        [.poll 3 .bidirectional 7 (.ok ()) (.error 9), .poll 3 .bidirectional 7 (.ok ()) (.ok ()),
          .stream 3 .bidirectional .peerAccepted, .stream 3 .bidirectional (.startComplete 0 4 false),
          .poll 3 .bidirectional 7 (.ok ()) (.ok ())] ∧
      total (yieldsIn 3 .bidirectional) tr = 1 ∧ total (discardsIn 3 .bidirectional) tr = 1 ∧
      (s.held 3 .bidirectional).isNone ∧ total (opensIn 3 .bidirectional) tr =
        total (yieldsIn 3 .bidirectional) tr + total (discardsIn 3 .bidirectional) tr +
          (s.held 3 .bidirectional).toList.length := by
  have h0 := System.Run.start (S := openerSystem Nat Coalesced Nat Bytes 64)
    (s := ⟨_, fun _ => .new⟩) ⟨.fromRaw none none, fun _ => rfl⟩
  have h5 := ((((h0.step (.poll 3 .bidirectional 7 (.ok ()) (.ok ())) trivial).step
    (.stream 3 .bidirectional (.startComplete 0 4 false)) trivial).step
    (.stream 3 .bidirectional .peerAccepted) trivial).step
    (.poll 3 .bidirectional 7 (.ok ()) (.ok ())) trivial).step
    (.poll 3 .bidirectional 7 (.ok ()) (.error 9)) trivial
  exact ⟨_, _, h5, rfl, rfl, rfl, rfl, (openers_exact h5 3 .bidirectional).1⟩

end H3

end MsquicAsync
