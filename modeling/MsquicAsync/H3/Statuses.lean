import MsquicAsync.Endpoint
import MsquicAsync.H3.Connection
import MsquicAsync.H3.HeldStream

/-!
# Polls that unwrap a status

A poll that answers with a loss unwraps the status code of the stored error, and
a poll of a start unwraps that of the start status. Here is when each of them
returns: a connection's methods when the error of a lost connection is named
(`LossNamed`), a stream's when what it has stored is (`StreamNamed`).
-/

namespace MsquicAsync.H3

open Runs Ranges

/-! ## Conversions -/

section

variable {α γ ε ε' : Type}

/-- The call does not panic. -/
def Returns (o : Outcome α) : Prop := ∃ a, o = .returned a

theorem returns_returned (a : α) : Returns (.returned a) := ⟨a, rfl⟩

theorem not_returns_panicked (m : String) : ¬ Returns (.panicked m : Outcome α) :=
  fun ⟨_, h⟩ => by cases h

theorem returns_map {o : Outcome α} {f : α → γ} : Returns (o.map f) ↔ Returns o := by
  cases o with
  | returned a => exact iff_of_true (returns_returned _) (returns_returned _)
  | panicked m => exact iff_of_false (not_returns_panicked m) (not_returns_panicked m)

theorem returns_mapErr {f : ε → Outcome ε'} {r : Except ε α} :
    Returns (mapErr f r) ↔ ∀ e, r = .error e → Returns (f e) := by
  cases r with
  | ok a => exact iff_of_true (returns_returned _) fun e h => by cases h
  | error e =>
    refine returns_map.trans ⟨fun h e' he => ?_, fun h => h e rfl⟩
    obtain rfl : e = e' := by injection he
    exact h

theorem returns_mapPollErr {f : ε → Outcome ε'} {p : Poll (Except ε α)} :
    Returns (mapPollErr f p) ↔ ∀ e, p = .ready (.error e) → Returns (f e) := by
  cases p with
  | pending => exact iff_of_true (returns_returned _) fun e h => by cases h
  | ready r =>
    refine returns_map.trans (returns_mapErr.trans ?_)
    simp only [Poll.ready.injEq]

variable [StatusApi]

/-- The enumeration has the status. -/
def Named (status : Status) : Prop := (StatusApi.tryAsStatusCode status).isSome

/-- The error does not carry a status that the enumeration does not have. -/
def ErrorNamed (e : ConnectionError) : Prop :=
  ∀ status code, e = .shutdownByTransport status code → Named status

theorem convertConnectionError_returns {e : ConnectionError} :
    Returns (convertConnectionError e) ↔ ErrorNamed e := by
  cases e with
  | shutdownByTransport status code =>
    have hnamed : ErrorNamed (.shutdownByTransport status code) ↔ Named status := by
      constructor
      · exact fun h => h status code rfl
      · rintro h status' code' heq
        cases heq
        exact h
    rw [hnamed, convertConnectionError]
    unfold Named
    cases StatusApi.tryAsStatusCode status with
    | none => exact iff_of_false (not_returns_panicked _) Bool.noConfusion
    | some code => cases code <;> exact iff_of_true ⟨_, rfl⟩ rfl
  | _ => exact iff_of_true (returns_returned _) fun _ _ h => by cases h

/-- The conversion panics on a lost connection at most, and there on its status. -/
def ConvertsLost (f : ε → Outcome ε') (wrap : ConnectionError → ε) : Prop :=
  ∀ e, Returns (f e) ↔ ∀ c, e = wrap c → ErrorNamed c

theorem returns_lost {wrap : ConnectionError → ε} (hinj : wrap.Injective) {c : ConnectionError}
    {g : ConnectionErrorIncoming → ε'} :
    Returns ((convertConnectionError c).map g) ↔ ∀ c', wrap c = wrap c' → ErrorNamed c' := by
  refine returns_map.trans (convertConnectionError_returns.trans ?_)
  constructor
  · intro h c' hc
    obtain rfl := hinj hc
    exact h
  · exact fun h => h c rfl

theorem convertStartError_converts : ConvertsLost convertStartError .connectionLost := by
  intro e
  cases e with
  | connectionLost c => exact returns_lost fun _ _ => by simp
  | _ => exact iff_of_true (returns_returned _) fun _ h => by cases h

theorem convertDgramSendError_converts : ConvertsLost convertDgramSendError .connectionLost := by
  intro e
  cases e with
  | connectionLost c => exact returns_lost fun _ _ => by simp
  | _ => exact iff_of_true (returns_returned _) fun _ h => by cases h

theorem convertDgramRecvError_converts : ConvertsLost convertDgramRecvError .connectionLost := by
  intro e
  cases e with
  | connectionLost c => exact returns_lost fun _ _ => by simp
  | _ => exact iff_of_true (returns_returned _) fun _ h => by cases h

theorem convertReadError_converts : ConvertsLost convertReadError .connectionLost := by
  intro e
  cases e with
  | connectionLost c => exact returns_lost fun _ _ => by simp
  | _ => exact iff_of_true (returns_returned _) fun _ h => by cases h

theorem convertWriteError_converts : ConvertsLost convertWriteError .connectionLost := by
  intro e
  cases e with
  | connectionLost c => exact returns_lost fun _ _ => by simp
  | _ => exact iff_of_true (returns_returned _) fun _ h => by cases h

/-! ## The connection's methods -/

/-- The connection's polls answer with its error. -/
def Lost {ω : Type} (x : ConnectionInnerExclusive ω) : Prop :=
  x.state = .shutdown ∨ x.state = .shutdownComplete

/-- If the connection is lost its error is there, and is named. -/
def LossNamed {ω : Type} (x : ConnectionInnerExclusive ω) : Prop :=
  Lost x → ∃ e, x.error = some e ∧ ErrorNamed e

variable {ω : Type} {x : ConnectionInnerExclusive ω}

theorem ConvertsLost.wrapped {wrap : ConnectionError → ε} {f : ε → Outcome ε'}
    (hf : ConvertsLost f wrap) (hinj : wrap.Injective) (c : ConnectionError) :
    Returns (f (wrap c)) ↔ ErrorNamed c := by
  refine (hf (wrap c)).trans ⟨fun h => h c rfl, fun h c' hc => ?_⟩
  obtain rfl := hinj hc
  exact h

theorem returns_expect_error {β γ : Type} {g : ConnectionError → β} {k : β → Outcome γ}
    (hk : ∀ e, Returns (k (g e)) ↔ ErrorNamed e) :
    Returns (((expect x.error "error").map g).bind k) ↔ ∃ e, x.error = some e ∧ ErrorNamed e := by
  cases he : x.error with
  | none => exact iff_of_false (not_returns_panicked _) fun ⟨_, h, _⟩ => by cases h
  | some c =>
    refine (hk c).trans ⟨fun h => ⟨c, rfl, h⟩, ?_⟩
    rintro ⟨c', hc, h⟩
    obtain rfl := Option.some.inj hc
    exact h

variable [WillWake ω]

theorem returns_whenConnected {wrap : ConnectionError → ε} {f : ε → Outcome ε'} {cx : ω}
    {notStarted : ε} {body : ConnectionRan ω (Outcome (Poll (Except ε α)))}
    (hf : ConvertsLost f wrap) (hinj : wrap.Injective) (hn : Returns (f notStarted))
    (hbody : x.state = .connected → Returns (body.result.bind (mapPollErr f))) :
    Returns ((Connection.whenConnected x cx notStarted wrap body).result.bind (mapPollErr f)) ↔
      LossNamed x := by
  have hlost : Returns ((Connection.lost (α := α) x wrap).result.bind (mapPollErr f)) ↔
      ∃ e, x.error = some e ∧ ErrorNamed e :=
    returns_expect_error fun e => returns_map.trans (returns_map.trans (hf.wrapped hinj e))
  unfold LossNamed Lost Connection.whenConnected
  cases hs : x.state with
  | opened => exact iff_of_true (returns_map.mpr (returns_map.mpr hn)) (by simp)
  | connecting => exact iff_of_true ⟨_, rfl⟩ (by simp)
  | connected => exact iff_of_true (hbody hs) (by simp)
  | shutdown => exact hlost.trans ⟨fun h _ => h, fun h => h (.inl rfl)⟩
  | shutdownComplete => exact hlost.trans ⟨fun h _ => h, fun h => h (.inr rfl)⟩

theorem pollAcceptBidi_returns {cx : ω} :
    Returns (pollAcceptBidi x cx).result ↔ LossNamed x := by
  refine returns_whenConnected convertStartError_converts (fun _ _ => by simp) ⟨_, rfl⟩ fun _ => ?_
  cases x.inboundStreams <;> exact ⟨_, rfl⟩

theorem pollAcceptRecv_returns {cx : ω} :
    Returns (pollAcceptRecv x cx).result ↔ LossNamed x := by
  refine returns_map.trans (returns_whenConnected convertStartError_converts (fun _ _ => by simp)
    ⟨_, rfl⟩ fun _ => ?_)
  cases x.inboundUniStreams <;> exact ⟨_, rfl⟩

theorem pollIncomingDatagram_returns {cx : ω} :
    Returns (pollIncomingDatagram x cx).result ↔ LossNamed x := by
  refine returns_whenConnected convertDgramRecvError_converts (fun _ _ => by simp) ⟨_, rfl⟩
    fun _ => ?_
  cases x.recvBuffers <;> exact ⟨_, rfl⟩

omit [StatusApi] [WillWake ω] in
theorem checkedSendDatagram_not_lost (x : ConnectionInnerExclusive ω) (data : Bytes) (fresh : Nat)
    (native : NativeResult) (c : ConnectionError) :
    (Connection.checkedSendDatagram x data fresh native).result ≠ .error (.connectionLost c) := by
  unfold Connection.checkedSendDatagram
  split
  · exact fun h => by cases h
  · split
    · exact fun h => by cases h
    · cases native <;> exact fun h => by cases h

omit [WillWake ω] in
theorem sendDatagram_returns {data : Bytes} {fresh : Nat} {native : NativeResult} :
    Returns (sendDatagram x data fresh native).result ↔ LossNamed x := by
  have hlost : Returns (((expect x.error "error").map fun e =>
      (.error (.connectionLost e) : Except DgramSendError Unit)).bind
        (mapErr convertDgramSendError)) ↔ ∃ e, x.error = some e ∧ ErrorNamed e :=
    returns_expect_error fun e =>
      returns_map.trans (convertDgramSendError_converts.wrapped (fun _ _ => by simp) e)
  unfold LossNamed Lost sendDatagram Connection.sendDatagram
  cases hs : x.state with
  | opened | connecting => exact iff_of_true ⟨_, rfl⟩ (by simp)
  | connected =>
    refine iff_of_true (returns_mapErr.mpr fun e he => ?_) (by simp)
    refine (convertDgramSendError_converts e).mpr fun c hc => ?_
    rw [hc] at he
    exact absurd he (checkedSendDatagram_not_lost x data fresh native c)
  | shutdown => exact hlost.trans ⟨fun h _ => h, fun h => h (.inl rfl)⟩
  | shutdownComplete => exact hlost.trans ⟨fun h _ => h, fun h => h (.inr rfl)⟩

end

/-! ## The streams' methods -/

section

variable [StatusApi]

/-- A start status has a code, and a loss is recorded if its code says so; `lost` is whether it
is. -/
def StartNamed (lost : Prop) (status : Status) : Prop :=
  StatusApi.isOk status = true ∨ ∃ code, StatusApi.tryAsStatusCode status = some code ∧
    (code = .aborted ∨ code = .invalidState → lost)

theorem StartNamed.mono {p q : Prop} {status : Status} (h : StartNamed p status) (hpq : p → q) :
    StartNamed q status := by
  rcases h with hok | ⟨code, hcode, hlost⟩
  · exact .inl hok
  · exact .inr ⟨code, hcode, fun hc => hpq (hlost hc)⟩

variable {R ω : Type}

/-- The stream has left its start behind. -/
def PastStart (x : StreamInner R ω) : Prop :=
  x.state = .startComplete ∨ x.state = .shutdownComplete

/-- What a stream has stored is named. -/
structure StreamNamed (x : StreamInner R ω) : Prop where
  connError : ∀ e, x.connError = some e → ErrorNamed e
  start : x.localOpen = true → PastStart x → ∀ status, x.startStatus = some status →
    StartNamed x.connError.isSome status

variable [WillWake ω] {x : StreamInner R ω} {cx : ω} {failedOnBlock : Bool} {native : NativeResult}

theorem pollStart_returns : Returns (Stream.pollStart x cx failedOnBlock native).result ↔
    (PastStart x → ∀ status, x.startStatus = some status →
      StartNamed x.connError.isSome status) := by
  have hpast {o : Outcome (Poll (Except StreamStartError Unit))}
      (ho : Returns o ↔ ∀ status, x.startStatus = some status →
        StartNamed x.connError.isSome status) (hp : PastStart x) :
      Returns o ↔ (PastStart x → ∀ status, x.startStatus = some status →
        StartNamed x.connError.isSome status) :=
    ho.trans ⟨fun h _ => h, fun h => h hp⟩
  unfold Stream.pollStart
  cases hs : x.state with
  | opened =>
    refine iff_of_true (by cases native <;> exact ⟨_, rfl⟩) ?_
    rintro (h | h) <;> cases hs.symm.trans h
  | start =>
    refine iff_of_true ⟨_, rfl⟩ ?_
    rintro (h | h) <;> cases hs.symm.trans h
  | startComplete | shutdownComplete =>
    refine hpast ?_ (by simp [PastStart, hs])
    cases hst : x.startStatus with
    | none => exact iff_of_true (returns_returned _) fun _ h => by cases h
    | some status =>
      simp only [Option.some.injEq, forall_eq']
      unfold StartNamed
      by_cases hok : StatusApi.isOk status = true
      · rw [if_pos hok]
        exact iff_of_true ⟨_, rfl⟩ (.inl hok)
      · rw [if_neg hok]
        have hexpect : Returns (expect x.connError "conn_error") ↔ x.connError.isSome := by
          cases x.connError with
          | none => exact iff_of_false (not_returns_panicked _) Bool.noConfusion
          | some e => exact iff_of_true ⟨_, rfl⟩ rfl
        cases hcode : StatusApi.tryAsStatusCode status with
        | none =>
          refine iff_of_false (not_returns_panicked _) ?_
          rintro (h | ⟨_, h, _⟩)
          · exact hok h
          · cases h
        | some code =>
          simp only [hok, false_or, Option.some.injEq, exists_eq_left', Bool.false_eq_true]
          cases code with
          | aborted | invalidState => simpa using returns_map.trans hexpect
          | _ => exact iff_of_true ⟨_, rfl⟩ (by simp)

theorem pollStart_lost {c : ConnectionError}
    (h : (Stream.pollStart x cx failedOnBlock native).result =
      .returned (.ready (.error (.connectionLost c)))) : x.connError = some c := by
  unfold Stream.pollStart at h
  split at h
  · cases native <;> cases h
  · cases h
  · split at h
    · cases h
    · split at h
      · cases h
      · split at h
        · cases h
        · cases h
        · cases hc : x.connError <;> rw [hc] at h <;> cases h
          rfl
        · cases hc : x.connError <;> rw [hc] at h <;> cases h
          rfl
        · cases h

/-- A poll of a future's stream returns where what the stream has stored is named. -/
theorem startStream_returns {f : OpenOutboundStream R ω} {s : StreamSys R ω}
    (hs : PastStart s.inner → ∀ status, s.inner.startStatus = some status →
      StartNamed s.inner.connError.isSome status)
    (hc : ∀ e, s.inner.connError = some e → ErrorNamed e) :
    Returns ((f.startStream s cx native).result.bind (mapPollErr convertStartError)) := by
  have hret : Returns (Stream.pollStart s.inner cx f.failOnBlocked native).result :=
    pollStart_returns.mpr hs
  obtain ⟨p, hp⟩ := hret
  show Returns (((Stream.pollStart s.inner cx f.failOnBlocked native).result.map _).bind _)
  rw [hp]
  refine returns_mapPollErr.mpr fun e he => (convertStartError_converts e).mpr fun c hce => ?_
  subst hce
  have hlost : p = .ready (.error (.connectionLost c)) := by
    rcases p with (e | _) | _
    · injection he with he
      injection he with he
      rw [he]
    · cases he
    · cases he
  rw [hlost] at hp
  exact hc c (pollStart_lost hp)

variable [RangeSet R] {conn : ConnectionInnerExclusive ω} {f : OpenOutboundStream R ω}
  {opened : NativeResult}

theorem pollOpen_returns (hl : LossNamed conn)
    (hresume : Returns ((f.resume cx opened native).result.bind (mapPollErr convertStartError))) :
    Returns (pollOpen conn f cx opened native).result := by
  have hgate : Returns ((Connection.pollOpenOutboundStream conn cx).result.bind
      (mapPollErr convertStartError)) :=
    (returns_whenConnected convertStartError_converts (fun _ _ => by simp) ⟨_, rfl⟩
      fun _ => ⟨_, rfl⟩).mpr hl
  show Returns ((f.poll conn cx opened native).result.bind _)
  unfold OpenOutboundStream.poll
  simp only
  cases hg : (Connection.pollOpenOutboundStream conn cx).result with
  | panicked m =>
    rw [hg] at hgate
    exact absurd hgate (not_returns_panicked m)
  | returned p =>
    rw [hg, Outcome.bind_returned, returns_mapPollErr] at hgate
    rcases p with (e | _) | _
    · exact returns_map.mpr (returns_map.mpr (hgate e rfl))
    · exact hresume
    · exact ⟨_, rfl⟩

theorem resume_new_returns {streamType : StreamType} {failOnBlocked : Bool} :
    Returns (((⟨some streamType, none, failOnBlocked⟩ : OpenOutboundStream R ω).resume cx opened
      native).result.bind (mapPollErr convertStartError)) := by
  unfold OpenOutboundStream.resume
  cases opened with
  | error e => exact ⟨_, rfl⟩
  | ok _ =>
    refine startStream_returns ?_ fun e he => by cases he
    rintro (h | h) <;> cases h

end

/-! ## The halves' methods -/

section

variable [StatusApi] {σ β : Type}

theorem pollData_returns {r : RecvStream σ} (h : r.Held)
    {answer : Poll (Except ReadError (Option StreamRecvBuffer))} :
    Returns (r.pollData answer).result ↔
      ∀ e, answer = .ready (.error e) → Returns (convertReadError e) := by
  obtain ⟨stream, hlend⟩ := RecvStream.lend_eq h
  simp only [RecvStream.pollData, hlend]
  cases answer with
  | pending => exact iff_of_true (returns_returned _) fun e he => by cases he
  | ready chunk =>
    cases chunk with
    | ok chunk => exact iff_of_true (returns_returned _) fun e he => by cases he
    | error e => exact returns_map.trans (by simp)

theorem pollFinish_returns {y : SendStream σ β} {stream : σ} (hs : y.stream = some stream)
    {answer : Poll (Except WriteError Unit)} :
    Returns (y.pollFinish answer).result ↔
      ∀ e, answer = .ready (.error e) → Returns (convertWriteError e) := by
  simp only [SendStream.pollFinish, hs]
  rcases answer with (e | _) | _
  · exact returns_map.trans (by simp)
  · exact iff_of_true (returns_returned _) fun e he => by cases he
  · exact iff_of_true (returns_returned _) fun e he => by cases he

variable [Buf β]

/-- **The conversion of a failed write**: of all that a poll may panic on, it alone is a
status. -/
theorem pollReadyLoop_unwrapErr {y : SendStream σ β} {data : β}
    {answers : List (Except WriteError Nat)}
    (h : (y.pollReadyLoop data answers).result = .panicked unwrapErr) :
    ∃ e, .error e ∈ answers ∧ ¬ Returns (convertWriteError e) := by
  induction answers generalizing y data with
  | nil =>
    unfold SendStream.pollReadyLoop at h
    split at h
    · cases h
    · simp only at h
      split at h <;> simp [unwrapErr, enteredUnreachable, resumedAnswered] at h
  | cons answer answers ih =>
    unfold SendStream.pollReadyLoop at h
    split at h
    · cases h
    · simp only at h
      split at h
      · simp [unwrapErr, enteredUnreachable] at h
      · simp [unwrapErr, resumedAnswered] at h
      · cases answer with
        | error e =>
          have hconv : convertWriteError e = .panicked unwrapErr := map_panicked h
          refine ⟨e, List.mem_cons_self, ?_⟩
          rw [hconv]
          exact not_returns_panicked unwrapErr
        | ok cnt =>
          simp only at h
          split at h
          · simp [unwrapErr, advancedTooFar] at h
          · obtain ⟨e, he, hr⟩ := ih h
            exact ⟨e, List.mem_cons_of_mem _ he, hr⟩

theorem pollReady_unwrapErr {y : SendStream σ β} {answers : List (Except WriteError Nat)}
    (h : (y.pollReady answers).result = .panicked unwrapErr) :
    ∃ e, .error e ∈ answers ∧ ¬ Returns (convertWriteError e) := by
  unfold SendStream.pollReady at h
  split at h
  · exact pollReadyLoop_unwrapErr h
  · cases h

omit [Buf β] in
theorem pollSend_returns {δ : Type} [Buf δ] {y : SendStream σ β} (hw : y.writing = none)
    {stream : σ} (hs : y.stream = some stream) {buf : δ} {e : WriteError}
    (he : Returns (convertWriteError e)) :
    Returns (y.pollSend buf (.ready (.error e))).result := by
  simp only [SendStream.pollSend, hw, hs, Option.isSome_none, Bool.false_eq_true, if_false]
  exact returns_map.mpr he

end

section

variable {R ω : Type} [WillWake ω] {x : StreamInner R ω} {cx : ω} {c : ConnectionError}

theorem pollReadChunk_lost
    (h : (Stream.pollReadChunk x cx).result.poll = .ready (.error (.connectionLost c))) :
    x.connError = some c := by
  unfold Stream.pollReadChunk Stream.pollReadGeneric at h
  split at h
  · cases h
  · cases h
  · simp only at h
    split at h <;> cases h
  · cases h
  · simp only [Stream.readShutdownComplete] at h
    split at h
    · next e he =>
      cases h
      exact he
    · split at h
      · cases h
      · split at h <;> cases h

omit [WillWake ω] in
theorem writeShutdownComplete_lost {α : Type} {done : Except WriteError α}
    (hd : done ≠ .error (.connectionLost c))
    (h : Stream.writeShutdownComplete x done = .error (.connectionLost c)) :
    x.connError = some c := by
  unfold Stream.writeShutdownComplete at h
  split at h
  · next e he =>
    cases h
    exact he
  · split at h
    · cases h
    · split at h
      · cases h
      · exact absurd h hd

theorem pollFinishWrite_lost {native : NativeResult}
    (h : (Stream.pollFinishWrite x cx native).result = .ready (.error (.connectionLost c))) :
    x.connError = some c := by
  unfold Stream.pollFinishWrite Stream.shutdownSend at h
  simp only at h
  split at h
  · cases h
  · cases native <;> cases h
  · cases h
  · injection h with h
    exact writeShutdownComplete_lost (fun h => by cases h) h
  · cases h

omit [WillWake ω] in
theorem sendWrite_not_lost {α : Type} {extraFlags : SendFlags}
    {writeFn : WriteBuffer → WriteBuffer × WriteStatus α} {fresh : Nat} {native : NativeResult} :
    (Stream.sendWrite x extraFlags writeFn fresh native).result ≠
      .returned (.ready (.error (.connectionLost c))) := by
  unfold Stream.sendWrite
  simp only
  split
  · cases native <;> exact fun h => by cases h
  · cases native <;> exact fun h => by cases h
  · exact fun h => by cases h
  · cases native <;> exact fun h => by cases h

theorem pollWriteGeneric_lost {α : Type} {extraFlags : SendFlags}
    {writeFn : WriteBuffer → WriteBuffer × WriteStatus α} {fresh : Nat} {native : NativeResult}
    (h : (Stream.pollWriteGeneric x cx extraFlags writeFn fresh native).result =
      .returned (.ready (.error (.connectionLost c)))) : x.connError = some c := by
  unfold Stream.pollWriteGeneric at h
  split at h
  · cases h
  · cases h
  · exact absurd h sendWrite_not_lost
  · cases h
  · injection h with h
    injection h with h
    exact writeShutdownComplete_lost (fun h => by cases h) h

theorem pollWrite_lost {buf : Bytes} {fin : Bool} {extraFlags : SendFlags} {fresh : Nat}
    {native : NativeResult}
    (h : (Stream.pollWrite x cx buf fin extraFlags fresh native).result =
      .returned (.ready (.error (.connectionLost c)))) : x.connError = some c := by
  have hlost {o : Outcome (Poll (Except WriteError (Option Nat)))}
      (ho : Stream.countWritten o = .returned (.ready (.error (.connectionLost c)))) :
      o = .returned (.ready (.error (.connectionLost c))) := by
    rcases o with ((e | _) | _) | _ <;> cases ho
    rfl
  exact pollWriteGeneric_lost (hlost h)

end

end MsquicAsync.H3
