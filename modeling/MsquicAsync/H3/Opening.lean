import MsquicAsync.Connection.Lost
import MsquicAsync.H3.Connection

/-!
# Opening streams for HTTP/3

An opener keeps the future that opens a stream between two polls, one for each
kind of stream, so a caller that stops polling loses nothing. `Unfold.Polled`
says what one poll of it can do, by what it held.
-/

namespace MsquicAsync

open Runs Ranges

/-- `Stream::split`: the halves share the stream. -/
def Stream.split {R ω : Type} (s : StreamSys R ω) : Option (StreamSys R ω) × Option (StreamSys R ω) :=
  match s.inner.streamType, s.inner.localOpen with
  | .unidirectional, true => (none, some s)
  | .unidirectional, false => (some s, none)
  | .bidirectional, _ => (some s, some s)

variable {R ω β ι : Type}

namespace H3

/-! ## Openers -/

/-- A `stream::unfold` over `open_outbound_stream`: between two streams it has the connection
alone, else the future that opens one. A panic of the future poisons the block that awaits it. -/
inductive Unfold (R ω : Type) where
  | value
  | future (f : OpenOutboundStream R ω)
  | poisoned

/-- The message of a block that is polled after it has panicked. -/
def resumedPanicked : String := "`async fn` resumed after panicking"

/-- The error of both methods, a `StreamErrorIncoming`. -/
inductive OpenErrorIncoming where
  | connectionErrorIncoming (connectionError : MethodError StreamStartError)
  deriving DecidableEq, Repr

/-- Convert the value that a poll answers with. -/
def mapPollOk {ε α α' : Type} (f : α → Outcome α') :
    Poll (Except ε α) → Outcome (Poll (Except ε α'))
  | .ready (.ok a) => (f a).map fun a => .ready (.ok a)
  | .ready (.error e) => .returned (.ready (.error e))
  | .pending => .returned .pending

/-- The halves of a stream that should be bidirectional. -/
def splitBidi (s : StreamSys R ω) : Outcome (BidiStream (StreamSys R ω) β) :=
  match Stream.split s with
  | (some read, some write) => .returned { send := .new write, recv := .new read }
  | _ => .panicked (enteredUnreachable ++
      ": msquic-async should always return a bidirectional stream")

/-- The half of a stream that should be unidirectional. -/
def splitSend (s : StreamSys R ω) : Outcome (SendStream (StreamSys R ω) β) :=
  match Stream.split s with
  | (none, some write) => .returned (.new write)
  | _ => .panicked (enteredUnreachable ++
      ": msquic-async should always return a unidirectional stream")

section

variable [WillWake ω] [StatusApi] [RangeSet R]

/-- Poll the future, and drop it once it has answered. -/
def Unfold.await (f : OpenOutboundStream R ω) (conn : ConnectionInnerExclusive ω) (cx : ω)
    (opened native : NativeResult) :
    Ran (ConnectionInnerExclusive ω × Unfold R ω) ω OpenCall (OpenResult R ω) :=
  let r := f.poll conn cx opened native
  { state :=
      (r.state.1,
        match r.result with
        | .returned .pending => .future r.state.2
        | .returned (.ready _) => .value
        | .panicked _ => .poisoned)
    result := r.result
    woken := r.woken
    calls := r.calls }

/-- `poll_next`. The future is made in its first poll. -/
def Unfold.pollNext (streamType : StreamType) (u : Unfold R ω) (conn : ConnectionInnerExclusive ω)
    (cx : ω) (opened native : NativeResult) :
    Ran (ConnectionInnerExclusive ω × Unfold R ω) ω OpenCall (OpenResult R ω) :=
  match u with
  | value => await ⟨some streamType, none, false⟩ conn cx opened native
  | future f => await f conn cx opened native
  | poisoned => { state := (conn, .poisoned), result := .panicked resumedPanicked }

/-- What `poll_open_bidi` and `poll_open_send` share, in `Connection` and in `OpenStreams`. -/
def pollOpening (streamType : StreamType) (opening : Option (Unfold R ω))
    (conn : ConnectionInnerExclusive ω) (cx : ω) (opened native : NativeResult) :
    Ran (ConnectionInnerExclusive ω × Option (Unfold R ω)) ω OpenCall
      (Outcome (Poll (Except OpenErrorIncoming (StreamSys R ω)))) :=
  ((opening.getD .value).pollNext streamType conn cx opened native).lift
    (fun p => (p.1, some p.2)) fun r => r.bind (mapPollErr fun e =>
      (convertStartError e).map .connectionErrorIncoming)

end

/-- `OpenStreams`, without its connection, which all openers share. -/
structure OpenStreams (R ω : Type) where
  opening : Option (Unfold R ω)
  openingUni : Option (Unfold R ω)

namespace OpenStreams

/-- `Connection::opener`, and each clone of an opener. -/
def new : OpenStreams R ω where
  opening := none
  openingUni := none

/-- The stream of each kind. -/
def slot (x : OpenStreams R ω) : StreamType → Option (Unfold R ω)
  | .bidirectional => x.opening
  | .unidirectional => x.openingUni

def put (x : OpenStreams R ω) (t : StreamType) (u : Option (Unfold R ω)) : OpenStreams R ω :=
  match t with
  | .bidirectional => { x with opening := u }
  | .unidirectional => { x with openingUni := u }

@[simp] theorem slot_put (x : OpenStreams R ω) (t : StreamType) (u : Option (Unfold R ω)) :
    (x.put t u).slot t = u := by cases t <;> rfl

theorem slot_put_of_ne (x : OpenStreams R ω) {t t' : StreamType} (h : t ≠ t')
    (u : Option (Unfold R ω)) : (x.put t' u).slot t = x.slot t := by
  cases t <;> cases t' <;> first | rfl | exact absurd rfl h

variable [WillWake ω] [StatusApi] [RangeSet R]

def pollOpenBidi (x : OpenStreams R ω) (conn : ConnectionInnerExclusive ω) (cx : ω)
    (opened native : NativeResult) :
    Ran (ConnectionInnerExclusive ω × OpenStreams R ω) ω OpenCall
      (Outcome (Poll (Except OpenErrorIncoming (BidiStream (StreamSys R ω) β)))) :=
  (pollOpening .bidirectional x.opening conn cx opened native).lift
    (fun p => (p.1, { x with opening := p.2 })) fun r => r.bind (mapPollOk splitBidi)

def pollOpenSend (x : OpenStreams R ω) (conn : ConnectionInnerExclusive ω) (cx : ω)
    (opened native : NativeResult) :
    Ran (ConnectionInnerExclusive ω × OpenStreams R ω) ω OpenCall
      (Outcome (Poll (Except OpenErrorIncoming (SendStream (StreamSys R ω) β)))) :=
  (pollOpening .unidirectional x.openingUni conn cx opened native).lift
    (fun p => (p.1, { x with openingUni := p.2 })) fun r => r.bind (mapPollOk splitSend)

/-- `close`: the answer of `shutdown` is dropped. -/
def close (conn : ConnectionInnerExclusive ω) (code : UInt64) : ConnectionRan ω Unit :=
  (Connection.shutdown conn code).lift id fun _ => ()

end OpenStreams

end H3

/-! ## One poll -/

/-- A stream opened here as a `t`, and started. -/
structure StreamInner.Opening {R ω : Type} (t : StreamType) (x : StreamInner R ω) : Prop where
  streamType : x.streamType = t
  localOpen : x.localOpen = true
  state : x.state ≠ .opened

/-- How a poll of a start that is under way ends. -/
inductive Stream.StartPoll [StatusApi] {R ω : Type} (x : StreamInner R ω) :
    Outcome (Poll (Except StreamStartError Unit)) → StreamInner R ω → Prop
  | waits (waiters : List ω) : StartPoll x (.returned .pending) { x with startWaiters := waiters }
  | started : StartPoll x (.returned (.ready (.ok ()))) x
  | failed (e : StreamStartError) (h : ∀ c, e = .connectionLost c → x.connError = some c) :
      StartPoll x (.returned (.ready (.error e))) x
  | panicked (message : String) (h : x.Unexplained) : StartPoll x (.panicked message) x

theorem Stream.pollStart_startPoll [StatusApi] [WillWake ω] {x : StreamInner R ω}
    (h : x.state ≠ .opened) (cx : ω) (failedOnBlock : Bool) (native : NativeResult) :
    (pollStart x cx failedOnBlock native).calls = [] ∧
      StartPoll x (pollStart x cx failedOnBlock native).result
        (pollStart x cx failedOnBlock native).state := by
  unfold pollStart
  split
  next ho => exact absurd ho h
  · exact ⟨rfl, .waits _⟩
  cases hst : x.startStatus with
  | none => exact ⟨rfl, .started⟩
  | some status =>
    simp only
    by_cases hok : StatusApi.isOk status = true
    · rw [if_pos hok]
      exact ⟨rfl, .started⟩
    · rw [if_neg hok]
      have hbad := Bool.eq_false_iff.mpr hok
      have hblame (hc : StatusApi.tryAsStatusCode status = some .aborted ∨
          StatusApi.tryAsStatusCode status = some .invalidState) :
          StartPoll x ((expect x.connError "conn_error").map fun e =>
            .ready (.error (.connectionLost e))) x := by
        cases he : x.connError with
        | some c => exact .failed _ fun c' h => by cases h; exact he
        | none => exact .panicked _ ⟨status, hst, hbad, .inr ⟨hc, he⟩⟩
      cases hc : StatusApi.tryAsStatusCode status with
      | none => exact ⟨rfl, .panicked _ ⟨status, hst, hbad, .inl hc⟩⟩
      | some code =>
        cases code with
        | aborted => exact ⟨rfl, hblame (.inl hc)⟩
        | invalidState => exact ⟨rfl, hblame (.inr hc)⟩
        | _ => exact ⟨rfl, .failed _ fun _ h => by cases h⟩

namespace H3

/-- The stream that an opener holds. -/
def Unfold.held : Unfold R ω → Option (StreamSys R ω)
  | future f => f.stream
  | _ => none

theorem Unfold.held_future (f : OpenOutboundStream R ω) : (future f).held = f.stream := rfl
@[simp] theorem Unfold.held_value : (value : Unfold R ω).held = none := rfl
@[simp] theorem Unfold.held_poisoned : (poisoned : Unfold R ω).held = none := rfl

/-- There is no stream yet, and a poll can open one. -/
def Unfold.Free (u : Unfold R ω) : Prop := u.held = none ∧ u ≠ poisoned

/-- A held future is opening a `t`, or has opened one. -/
def Unfold.Sound (t : StreamType) (u : Unfold R ω) : Prop :=
  ∀ f, u = future f → f.failOnBlocked = false ∧
    ((f.stream = none ∧ f.streamType = some t) ∨ ∃ x, f.stream = some x ∧ x.inner.Opening t)

theorem Unfold.sound_value {t : StreamType} : (value : Unfold R ω).Sound t := fun _ h => by cases h

theorem Unfold.sound_poisoned {t : StreamType} : (poisoned : Unfold R ω).Sound t :=
  fun _ h => by cases h

section

variable [StatusApi]

/-- How a poll ends, by what it held: the native calls, the answer and what it holds then. -/
inductive Unfold.Polled (t : StreamType) (conn : ConnectionInnerExclusive ω) (u : Unfold R ω) :
    List OpenCall → OpenResult R ω → Unfold R ω → Prop
  | poisoned (hu : u = poisoned) : Polled t conn u [] (.panicked resumedPanicked) poisoned
  | refused (hc : conn.state ≠ .connected) (e : StreamStartError)
      (he : ∀ c, e = .connectionLost c → conn.error = some c) :
      Polled t conn u [] (.returned (.ready (.error e))) value
  | waits (hc : conn.state ≠ .connected) {f : OpenOutboundStream R ω} (hf : f.stream = u.held) :
      Polled t conn u [] (.returned .pending) (future f)
  | openFails (hc : conn.state = .connected) (hu : u.Free) (e : Status) :
      Polled t conn u [.streamOpen t (.error e)] (.returned (.ready (.error (.otherError e)))) value
  | startFails (hc : conn.state = .connected) (hu : u.Free) (e : Status) :
      Polled t conn u [.streamOpen t (.ok ()), .stream (.start false (.error e))]
        (.returned (.ready (.error (.otherError e)))) value
  | starts (hc : conn.state = .connected) (hu : u.Free) {u' : Unfold R ω}
      {x : StreamSys R ω} (hx : u'.held = some x) :
      Polled t conn u [.streamOpen t (.ok ()), .stream (.start false (.ok ()))]
        (.returned .pending) u'
  | starting (hc : conn.state = .connected) {x y : StreamSys R ω} (hx : u.held = some x)
      {u' : Unfold R ω} (hy : u'.held = some y) : Polled t conn u [] (.returned .pending) u'
  | yields (hc : conn.state = .connected) {x : StreamSys R ω} (hx : u.held = some x)
      (ht : x.inner.Opening t) : Polled t conn u [] (.returned (.ready (.ok x))) value
  | fails (hc : conn.state = .connected) {x : StreamSys R ω} (hx : u.held = some x)
      (e : StreamStartError) (he : ∀ c, e = .connectionLost c → x.inner.connError = some c) :
      Polled t conn u [] (.returned (.ready (.error e))) value
  | panics (hc : conn.state = .connected) {x : StreamSys R ω} (hx : u.held = some x)
      (message : String) (h : x.inner.Unexplained) :
      Polled t conn u [] (.panicked message) poisoned

end

section

variable [WillWake ω] [StatusApi] [RangeSet R] {t : StreamType} {u : Unfold R ω}
  {conn : ConnectionInnerExclusive ω}

/-- What a poll of an opener's future keeps and does. -/
structure Unfold.PollNext (t : StreamType) (conn : ConnectionInnerExclusive ω) (u : Unfold R ω)
    (r : Ran (ConnectionInnerExclusive ω × Unfold R ω) ω OpenCall (OpenResult R ω)) : Prop where
  polled : Polled t conn u r.calls r.result r.state.2
  sound : r.state.2.Sound t
  conn : r.state.1.lifecycle = conn.lifecycle

theorem Unfold.pollNext_start {f : OpenOutboundStream R ω} {x : StreamSys R ω} (cx : ω)
    (opened native : NativeResult) (hc : conn.state = .connected) (hx : f.stream = some x)
    (ht : x.inner.Opening t) (hf : f.failOnBlocked = false) (hu : u.held = f.stream) :
    PollNext t conn u (await f conn cx opened native) := by
  obtain ⟨hcalls, hpoll⟩ := Stream.pollStart_startPoll ht.state cx false native
  rw [hx] at hu
  have hawait : await f conn cx opened native =
      let r := f.startStream x cx native
      { state :=
          (conn,
            match r.result with
            | .returned .pending => .future r.state
            | .returned (.ready _) => .value
            | .panicked _ => .poisoned)
        result := r.result
        woken := r.woken
        calls := r.calls } := by
    simp only [await, OpenOutboundStream.poll, Connection.pollOpenOutboundStream,
      Connection.whenConnected, hc, OpenOutboundStream.resume, hx]
    rfl
  rw [hawait]
  simp only [OpenOutboundStream.startStream, hf]
  generalize Stream.pollStart x.inner cx false native = r at hcalls hpoll
  obtain ⟨⟨result, woken, calls⟩, state⟩ := r
  simp only at hcalls hpoll
  subst hcalls
  cases hpoll with
  | waits waiters =>
    exact ⟨.starting hc hu rfl, fun f' h => by
      cases h
      exact ⟨rfl, .inr ⟨_, rfl, ⟨ht.streamType, ht.localOpen, ht.state⟩⟩⟩, rfl⟩
  | started => exact ⟨.yields hc hu ht, sound_value, rfl⟩
  | failed e he => exact ⟨.fails hc hu e he, sound_value, rfl⟩
  | panicked m hm => exact ⟨.panics hc hu m hm, sound_poisoned, rfl⟩

theorem Unfold.pollNext_open (cx : ω) (opened native : NativeResult)
    (hc : conn.state = .connected) (hu : u.Free) :
    PollNext t conn u (await ⟨some t, none, false⟩ conn cx opened native) := by
  simp only [await, OpenOutboundStream.poll, Connection.pollOpenOutboundStream,
    Connection.whenConnected, hc, OpenOutboundStream.resume]
  cases opened with
  | error e => exact ⟨.openFails hc hu e, sound_value, rfl⟩
  | ok _ =>
    cases native with
    | error e => exact ⟨.startFails hc hu e, sound_value, rfl⟩
    | ok _ =>
      exact ⟨.starts hc hu rfl, fun f' h => by
        cases h
        exact ⟨rfl, .inr ⟨_, rfl, ⟨rfl, rfl, fun h => by cases h⟩⟩⟩, rfl⟩

theorem Unfold.pollNext_gate {f : OpenOutboundStream R ω} (cx : ω) (opened native : NativeResult)
    (hx : conn.Explained) (hc : conn.state ≠ .connected) (hu : u.held = f.stream)
    (hf : (future f).Sound t) : PollNext t conn u (await f conn cx opened native) := by
  simp only [await, OpenOutboundStream.poll, Connection.pollOpenOutboundStream,
    Connection.whenConnected]
  cases hs : conn.state with
  | opened => exact ⟨.refused hc _ (fun _ h => by cases h), sound_value, rfl⟩
  | connecting => exact ⟨.waits hc hu.symm, hf, rfl⟩
  | connected => exact absurd hs hc
  | shutdown | shutdownComplete =>
    obtain ⟨e, he⟩ := Option.isSome_iff_exists.mp (hx (by simp [hs]))
    simp only [Connection.lost, he]
    exact ⟨.refused hc _ (by rintro _ ⟨⟩; exact he), sound_value, rfl⟩

theorem Unfold.pollNext_spec (hx : conn.Explained) (hu : u.Sound t) (cx : ω)
    (opened native : NativeResult) : PollNext t conn u (u.pollNext t conn cx opened native) := by
  cases u with
  | poisoned => exact ⟨.poisoned rfl, sound_poisoned, rfl⟩
  | value =>
    by_cases hc : conn.state = .connected
    · exact pollNext_open cx opened native hc ⟨rfl, nofun⟩
    · exact pollNext_gate cx opened native hx hc rfl
        fun f h => by cases h; exact ⟨rfl, .inl ⟨rfl, rfl⟩⟩
  | future f =>
    by_cases hc : conn.state = .connected
    · obtain ⟨hf, ⟨hs, ht⟩ | ⟨x, hs, ht⟩⟩ := hu f rfl
      · obtain ⟨streamType, stream, failOnBlocked⟩ := f
        cases hs
        cases ht
        cases hf
        exact pollNext_open cx opened native hc ⟨rfl, nofun⟩
      · exact pollNext_start cx opened native hc hs ht hf rfl
    · exact pollNext_gate cx opened native hx hc rfl hu

end

end H3

end MsquicAsync
