import MsquicAsync.Endpoint
import MsquicAsync.H3.Statuses

/-!
# Statuses that have no code

MsQuic reports a status with three events: it goes into the connection's error,
a stream's start status or a stream's connection error. A later poll unwraps its
code. All polls return in every state of a run exactly when what the events
report has a code (`StatusesNamed`).
-/

namespace MsquicAsync.H3

open Runs Ranges

section

variable {R ω : Type}

/-- The stream splits into a half that reads. -/
def HasRecv (x : StreamInner R ω) : Prop :=
  ¬ (x.streamType = .unidirectional ∧ x.localOpen = true)

/-- The stream splits into a half that writes. -/
def HasSend (x : StreamInner R ω) : Prop :=
  ¬ (x.streamType = .unidirectional ∧ x.localOpen = false)

theorem hasRecv_or_hasSend (x : StreamInner R ω) : HasRecv x ∨ HasSend x := by
  unfold HasRecv HasSend
  cases x.localOpen <;> simp

variable [StatusApi] [RangeSet R] [WillWake ω]

/-- **No poll panics on a status**: every method that may answer with a loss returns, whatever
it is asked. -/
structure Answers (s : EndpointSys R ω) : Prop where
  acceptBidi : ∀ cx, Returns (pollAcceptBidi s.conn.inner cx).result
  acceptRecv : ∀ cx, Returns (pollAcceptRecv s.conn.inner cx).result
  incomingDatagram : ∀ cx, Returns (pollIncomingDatagram s.conn.inner cx).result
  sendDatagram : ∀ data fresh native, Returns (sendDatagram s.conn.inner data fresh native).result
  openNew : ∀ streamType failOnBlocked cx opened native, Returns (pollOpen s.conn.inner
    (⟨some streamType, none, failOnBlocked⟩ : OpenOutboundStream R ω) cx opened native).result
  opening : ∀ x ∈ s.streams, x.inner.localOpen = true → ∀ failOnBlocked cx opened native,
    Returns (pollOpen s.conn.inner ⟨none, some x, failOnBlocked⟩ cx opened native).result
  start : ∀ x ∈ s.streams, x.inner.localOpen = true → ∀ cx failedOnBlock native,
    Returns (Stream.pollStart x.inner cx failedOnBlock native).result
  data : ∀ x ∈ s.streams, HasRecv x.inner → ∀ (r : RecvStream Unit) cx, r.Held →
    Returns (r.pollData (Stream.pollReadChunk x.inner cx).result.poll).result
  finish : ∀ x ∈ s.streams, HasSend x.inner → ∀ (y : SendStream Unit Bytes) cx native,
    y.stream.isSome → Returns (y.pollFinish (Stream.pollFinishWrite x.inner cx native).result).result
  /-- However many writes of the poll came before the one that fails. -/
  ready : ∀ x ∈ s.streams, HasSend x.inner → ∀ (β : Type) [Buf β] (y : SendStream Unit β)
    (written : List Nat) cx buf fin extraFlags fresh native e,
    (Stream.pollWrite x.inner cx buf fin extraFlags fresh native).result =
        .returned (.ready (.error e)) →
      (y.pollReady (written.map .ok ++ [.error e])).result ≠ .panicked unwrapErr
  send : ∀ x ∈ s.streams, HasSend x.inner → ∀ (β δ : Type) [Buf δ] (y : SendStream Unit β)
    (data : δ) cx buf fin extraFlags fresh native e, y.writing = none → y.stream.isSome →
    (Stream.pollWrite x.inner cx buf fin extraFlags fresh native).result =
        .returned (.ready (.error e)) →
      Returns (y.pollSend data (.ready (.error e))).result

/-! ## What is stored -/

/-- What a connection has stored is named, and a lost one has stored it. -/
structure ConnectionNamed (x : ConnectionInnerExclusive ω) : Prop where
  error : ∀ e, x.error = some e → ErrorNamed e
  lost : Lost x → x.error ≠ none

omit [WillWake ω] in
theorem ConnectionNamed.lossNamed {x : ConnectionInnerExclusive ω} (h : ConnectionNamed x) :
    LossNamed x := fun hl =>
  have ⟨e, he⟩ := Option.ne_none_iff_exists'.mp (h.lost hl)
  ⟨e, he, h.error e he⟩

/-- What the connection and its streams have stored is named. -/
structure EndpointNamed (s : EndpointSys R ω) : Prop where
  conn : ConnectionNamed s.conn.inner
  streams : ∀ x ∈ s.streams, StreamNamed x.inner

variable {x : StreamInner R ω}

omit [RangeSet R] [WillWake ω] in
theorem StreamNamed.convert (h : StreamNamed x) {ε ε' : Type} {f : ε → Outcome ε'}
    {wrap : ConnectionError → ε} (hf : ConvertsLost f wrap) {e : ε}
    (he : ∀ c, e = wrap c → x.connError = some c) : Returns (f e) :=
  (hf e).mpr fun c hc => h.connError c (he c hc)

theorem EndpointNamed.answers {s : EndpointSys R ω} (h : EndpointNamed s) : Answers s where
  acceptBidi _ := pollAcceptBidi_returns.mpr h.conn.lossNamed
  acceptRecv _ := pollAcceptRecv_returns.mpr h.conn.lossNamed
  incomingDatagram _ := pollIncomingDatagram_returns.mpr h.conn.lossNamed
  sendDatagram _ _ _ := sendDatagram_returns.mpr h.conn.lossNamed
  openNew _ _ _ _ _ := pollOpen_returns h.conn.lossNamed resume_new_returns
  opening x hx hl _ _ _ _ := pollOpen_returns h.conn.lossNamed
    (startStream_returns ((h.streams x hx).start hl) (h.streams x hx).connError)
  start x hx hl _ _ _ := pollStart_returns.mpr ((h.streams x hx).start hl)
  data x hx _ r cx hr := by
    refine (pollData_returns hr).mpr fun e he =>
      (h.streams x hx).convert convertReadError_converts fun c hc => ?_
    subst hc
    exact pollReadChunk_lost he
  finish x hx _ y cx native hy := by
    obtain ⟨stream, hs⟩ := Option.isSome_iff_exists.mp hy
    refine (pollFinish_returns hs).mpr fun e he =>
      (h.streams x hx).convert convertWriteError_converts fun c hc => ?_
    subst hc
    exact pollFinishWrite_lost he
  ready x hx _ β _ y written cx buf fin extraFlags fresh native e he hp := by
    obtain ⟨e', he', hr⟩ := pollReady_unwrapErr hp
    obtain rfl : e' = e := by simpa using he'
    refine hr ((h.streams x hx).convert convertWriteError_converts fun c hc => ?_)
    subst hc
    exact pollWrite_lost he
  send x hx _ β δ _ y data cx buf fin extraFlags fresh native e hw hy he := by
    obtain ⟨stream, hs⟩ := Option.isSome_iff_exists.mp hy
    refine pollSend_returns hw hs
      ((h.streams x hx).convert convertWriteError_converts fun c hc => ?_)
    subst hc
    exact pollWrite_lost he

/-! ## What each step stores -/

/-- What the step leaves for later polls of the stream has a code. A start status counts when
its stream has left the start behind: from then on polls look at it. -/
def StreamStatusNamed (x : StreamInner R ω) : StreamLabel ω → Prop
  | .event (.startComplete status _ _) =>
    x.localOpen = true → PastStart x → StartNamed x.connError.isSome status
  | .event .peerAccepted =>
    x.localOpen = true → ∀ status, x.startStatus = some status →
      StartNamed x.connError.isSome status
  | .event (.shutdownComplete connectionShutdown _ connectionShutdownByApp _ _ status) =>
    x.state ≠ .shutdownComplete →
      (connectionShutdown = true → connectionShutdownByApp = false → Named status) ∧
        (x.localOpen = true → ∀ status, x.startStatus = some status →
          StartNamed (connectionShutdown = true ∨ x.connError.isSome) status)
  | _ => True

/-- What the step leaves for later polls has a code. -/
def StatusesNamed (s : EndpointSys R ω) : EndpointLabel ω → Prop
  | .conn (.event (.shutdownInitiatedByTransport status _)) => Named status
  | .stream i l => ∀ x, s.streams[i]? = some x → StreamStatusNamed x.inner l
  | _ => True

omit [RangeSet R] [WillWake ω] in
/-- An error that is recorded was recorded before, or has a status if the transport reports it. -/
theorem nextError_named {c : ConnectionState} {error : Option ConnectionError}
    {l : ConnectionLabel ω} (h : ∀ e, error = some e → ErrorNamed e)
    (hl : ∀ status errorCode, l = .event (.shutdownInitiatedByTransport status errorCode) →
      Named status) {e : ConnectionError} (he : c.nextError error l = some e) : ErrorNamed e := by
  unfold ConnectionState.nextError at he
  split at he
  · split at he
    · cases he
      exact fun _ _ h => by cases h
    · exact h e he
  · split at he
    · cases he
      exact fun _ _ h => by cases h
    · exact h e he
  · next status errorCode =>
    cases he
    rintro _ _ heq
    cases heq
    exact hl status errorCode rfl
  · cases he
    exact fun _ _ h => by cases h
  · split at he
    · cases he
      exact fun _ _ h => by cases h
    · exact h e he
  · exact h e he

theorem ConnectionNamed.step {s : ConnectionSys ω} (h : ConnectionNamed s.inner)
    {l : ConnectionLabel ω}
    (hl : ∀ status errorCode, l = .event (.shutdownInitiatedByTransport status errorCode) →
      Named status) : ConnectionNamed (s.step l).state.inner := by
  refine ⟨fun e he => ?_, fun hlost => ?_⟩
  · rw [ConnectionSys.step_error] at he
    exact nextError_named h.error hl he
  · rw [ConnectionSys.step_error]
    refine ConnectionState.nextError_ne_none h.lost l ?_
    rw [← ConnectionSys.step_state]
    exact hlost

variable {w : Nat} {s : StreamSys R ω}

omit [StatusApi] [RangeSet R] [WillWake ω] in
/-- The events that store a status of a stream, or let its polls look at one. -/
def StoresStatus : StreamLabel ω → Prop
  | .event (.startComplete _ _ _) | .event .peerAccepted
  | .event (.shutdownComplete _ _ _ _ _ _) => True
  | _ => False

theorem step_stored {l : StreamLabel ω} (h : ¬ StoresStatus l) :
    (s.step w l).state.inner.connError = s.inner.connError ∧
      (s.step w l).state.inner.startStatus = s.inner.startStatus ∧
      (PastStart (s.step w l).state.inner → PastStart s.inner) := by
  cases l with
  | event ev =>
    cases ev with
    | startComplete | peerAccepted | shutdownComplete => exact absurd trivial h
    | sendComplete canceled clientContext =>
      simp only [StreamSys.step, StreamSys.dispatchEvent]
      split <;> exact ⟨rfl, rfl, id⟩
    | _ => exact ⟨rfl, rfl, id⟩
  | call op =>
    rcases op.group with hop | hop | hop | ⟨cx, failedOnBlock, native, rfl⟩ |
      ⟨cx, errorCode, native, rfl⟩ | ⟨errorCode, native, rfl⟩
    · obtain ⟨popped, -, he⟩ := StreamSys.call_read (w := w) (s := s) hop
      obtain ⟨_, _, _, _, hy⟩ := he.frame
      simp only [StreamSys.step, hy, true_and]
      exact id
    · obtain ⟨_, _, _, _, hy⟩ := (StreamSys.call_write (w := w) (s := s) hop).1.frame
      simp only [StreamSys.step, hy, true_and]
      exact id
    · obtain ⟨map, cursor, hy⟩ := StreamSys.call_held (w := w) (s := s) hop
      simp only [StreamSys.step, hy, true_and]
      exact id
    · simp only [StreamSys.step, StreamSys.call, StreamSys.after_inner]
      obtain ⟨⟨_, _, _, _, _, _, hy⟩, -, -⟩ :=
        Stream.startSide_pollStart s.inner cx failedOnBlock native
      obtain ⟨hstatus, hstate⟩ := Stream.pollStart_keeps s.inner cx failedOnBlock native
      refine ⟨by rw [hy], hstatus, fun hp => ?_⟩
      rcases hstate with hstate | hstate
      · unfold PastStart at hp ⊢
        rwa [hstate] at hp
      · rcases hp with hp | hp <;> cases hstate.symm.trans hp
    · obtain ⟨⟨_, _, _, hy⟩, -⟩ := Stream.abortSide_pollAbortRead s.inner cx errorCode native
      simp only [StreamSys.step, StreamSys.call, StreamSys.after_inner, hy, true_and]
      exact id
    · obtain ⟨⟨_, _, _, hy⟩, -⟩ := Stream.abortSide_abortRead s.inner errorCode native
      simp only [StreamSys.step, StreamSys.call, StreamSys.after_inner, hy, true_and]
      exact id

omit [RangeSet R] [WillWake ω] in
theorem startComplete_stored {status : Status} {id : UInt64} {peerAccepted : Bool}
    {y : StreamInner R ω}
    (hy : y = (Stream.handleEventStartComplete s.inner status id peerAccepted).state) :
    y.connError = s.inner.connError ∧ y.startStatus = some status ∧
      (PastStart s.inner → PastStart y) ∧
      (PastStart y → PastStart s.inner ∨ StatusApi.isOk status = true) := by
  subst hy
  unfold Stream.handleEventStartComplete
  by_cases h1 : StatusApi.isOk status = true ∧ peerAccepted = true <;>
    simp only [h1, if_true, if_false]
  · split <;> exact ⟨rfl, rfl, fun _ => .inl rfl, fun _ => .inr trivial⟩
  · split <;> exact ⟨rfl, rfl, fun h => h, .inl⟩

omit [RangeSet R] [WillWake ω] in
theorem shutdownConnError_named {cs ba cr : Bool} {ec : UInt64} {st : Status}
    {connError : Option ConnectionError} (h : ∀ e, connError = some e → ErrorNamed e)
    (hst : cs = true → ba = false → Named st) {e : ConnectionError}
    (he : Stream.shutdownConnError cs ba cr ec st connError = some e) : ErrorNamed e := by
  unfold Stream.shutdownConnError at he
  split at he
  · next hcs =>
    split at he
    · cases he
      exact fun _ _ h => by cases h
    · cases he
      exact fun _ _ h => by cases h
    · cases he
      rintro _ _ heq
      cases heq
      exact hst hcs rfl
  · exact h e he

theorem StreamNamed.step (h : StreamNamed s.inner) {l : StreamLabel ω}
    (hl : StreamStatusNamed s.inner l) : StreamNamed (s.step w l).state.inner := by
  have hlocal := (StreamSys.step_shared (w := w) (s := s) l).1
  by_cases hstores : StoresStatus l
  · cases l with
    | call op => exact hstores.elim
    | event ev =>
      cases ev with
      | startComplete status id peerAccepted =>
        obtain ⟨hc, hst, -, hpast⟩ := startComplete_stored
          (Eq.refl (Stream.handleEventStartComplete s.inner status id peerAccepted).state)
        refine ⟨fun e he => h.connError e (hc.symm.trans he), fun ho hp status' hs' => ?_⟩
        obtain rfl := Option.some.inj (hst.symm.trans hs')
        rw [hlocal] at ho
        rcases hpast hp with hp | hok
        · show StartNamed (Option.isSome _ = true) _
          rw [StreamSys.step, StreamSys.dispatchEvent, StreamSys.after_inner, hc]
          exact hl ho hp
        · exact .inl hok
      | peerAccepted => exact ⟨h.connError, fun ho _ => hl ho⟩
      | shutdownComplete cs ac ba cr ec st =>
        by_cases hs : s.inner.state = .shutdownComplete
        · simp only [StreamSys.step, StreamSys.dispatchEvent, StreamSys.after_inner,
            Stream.handleEventShutdownComplete_again hs]
          exact h
        · obtain ⟨hloss, hstart⟩ := hl hs
          obtain ⟨map, cursor, hy⟩ :=
            Stream.handleEventShutdownComplete_frame (w := w) hs cs ac ba cr ec st
          simp only [StreamSys.step, StreamSys.dispatchEvent, StreamSys.after_inner, hy] at hlocal ⊢
          refine ⟨fun e he => ?_, fun ho _ status hst => ?_⟩
          · exact shutdownConnError_named h.connError hloss he
          · exact (hstart ho status hst).mono Stream.shutdownConnError_isSome.mpr
      | _ => exact hstores.elim
  · obtain ⟨hc, hst, hpast⟩ := step_stored (w := w) (s := s) hstores
    refine ⟨fun e he => h.connError e (hc.symm.trans he), fun ho hp status hs => ?_⟩
    rw [hc]
    exact h.start (hlocal.symm.trans ho) (hpast hp) status (hst.symm.trans hs)

/-- A poll of the stream's start, and a poll of a half that is done, show what is stored. -/
theorem StreamStatusNamed.of_shown {l : StreamLabel ω} {y : StreamInner R ω}
    (hy : y = (s.step w l).state.inner)
    (hstart : y.localOpen = true → PastStart y → ∀ status, y.startStatus = some status →
      StartNamed y.connError.isSome status)
    (hloss : y.recvState = .shutdownComplete → y.sendState = .shutdownComplete →
      ∀ e, y.connError = some e → ErrorNamed e) : StreamStatusNamed s.inner l := by
  have hlocal := (StreamSys.step_shared (w := w) (s := s) l).1
  rw [← hy] at hlocal
  unfold StreamStatusNamed
  split
  · next status id peerAccepted =>
    intro ho hp
    obtain ⟨hc, hst, hpast, -⟩ := startComplete_stored (y := y) hy
    rw [← hc]
    exact hstart (hlocal.trans ho) (hpast hp) status hst
  · subst hy
    exact fun ho status hst => hstart ho (.inl rfl) status hst
  · next cs ac ba cr ec st =>
    intro hs
    obtain ⟨map, cursor, hsd⟩ :=
      Stream.handleEventShutdownComplete_frame (w := w) hs cs ac ba cr ec st
    rw [StreamSys.step, StreamSys.dispatchEvent, StreamSys.after_inner, hsd] at hy
    subst hy
    refine ⟨fun hcs hba => ?_, fun ho status hst => ?_⟩
    · refine hloss rfl rfl (.shutdownByTransport st ec) ?_ st ec rfl
      subst hcs hba
      rfl
    · exact (hstart ho (.inr rfl) status hst).mono Stream.shutdownConnError_isSome.mp
  · trivial

/-! ## Every run -/

variable {t : EndpointSys R ω}

theorem Answers.shown [Inhabited ω] (h : Answers t) {x : StreamSys R ω} (hx : x ∈ t.streams) :
    (x.inner.localOpen = true → PastStart x.inner → ∀ status, x.inner.startStatus = some status →
      StartNamed x.inner.connError.isSome status) ∧
    (x.inner.recvState = .shutdownComplete → x.inner.sendState = .shutdownComplete →
      ∀ e, x.inner.connError = some e → ErrorNamed e) := by
  refine ⟨fun ho => pollStart_returns.mp (h.start x hx ho default true (.ok ())),
    fun hr hs e he => ?_⟩
  rcases hasRecv_or_hasSend x.inner with hhalf | hhalf
  · have hret := h.data x hx hhalf (.new ()) default (fun h => by cases h)
    refine (convertReadError_converts (.connectionLost e)).mp
      ((pollData_returns (fun h => by cases h)).mp hret _ ?_) e rfl
    simp only [Stream.pollReadChunk, Stream.pollReadGeneric, hr, Stream.readShutdownComplete, he]
  · have hret := h.finish x hx hhalf (.new ()) default (.ok ()) rfl
    refine (convertWriteError_converts (.connectionLost e)).mp
      ((pollFinish_returns rfl).mp hret _ ?_) e rfl
    simp only [Stream.pollFinishWrite, Stream.shutdownSend, hs, Stream.writeShutdownComplete, he]

omit [RangeSet R] [WillWake ω] in
theorem streamNamed_new (hc : x.connError = none) (hs : x.state = .opened) : StreamNamed x := by
  refine ⟨fun e he => ?_, fun _ hp => ?_⟩
  · rw [hc] at he
    cases he
  · rcases hp with hp | hp <;> cases hs.symm.trans hp

/-- **A step of the whole system** keeps what is stored named if what it reports is. -/
theorem EndpointNamed.step (h : EndpointNamed t) {l : EndpointLabel ω} (hl : StatusesNamed t l) :
    EndpointNamed (t.next w l).1 := by
  have hadd {y : StreamSys R ω} (hc : y.inner.connError = none) (hs : y.inner.state = .opened) :
      EndpointNamed { t with streams := t.streams ++ [y] } :=
    ⟨h.conn, List.forall_mem_append.mpr
      ⟨h.streams, List.forall_mem_singleton.mpr (streamNamed_new hc hs)⟩⟩
  cases l with
  | conn l =>
    refine ⟨h.conn.step fun status errorCode heq => ?_, h.streams⟩
    subst heq
    exact hl
  | stream i l =>
    unfold EndpointSys.next
    cases hi : t.streams[i]? with
    | none =>
      simp only [hi]
      exact h
    | some x =>
      simp only [hi]
      refine ⟨h.conn, fun y hy => ?_⟩
      rcases List.mem_or_eq_of_mem_set hy with hy | rfl
      · exact h.streams y hy
      · exact (h.streams x (List.mem_of_getElem? hi)).step (hl x hi)
  | openStream streamType => exact hadd rfl rfl
  | acceptStream streamType => exact hadd rfl rfl

theorem Answers.statusesNamed [Inhabited ω] {l : EndpointLabel ω}
    (h : Answers (t.next w l).1) : StatusesNamed t l := by
  unfold StatusesNamed
  split
  · next status errorCode =>
    obtain ⟨e, he, hnamed⟩ := sendDatagram_returns.mp (h.sendDatagram [] 0 (.ok ())) (.inl rfl)
    exact hnamed status errorCode (Option.some.inj he).symm
  · next i l =>
    intro x hi
    have hmem : (x.step w l).state ∈ (t.next w (.stream i l)).1.streams := by
      simp only [EndpointSys.next, hi]
      exact List.mem_set (List.getElem?_eq_some_iff.mp hi).1 _
    obtain ⟨hstart, hloss⟩ := h.shown hmem
    exact .of_shown rfl hstart hloss
  · trivial

omit [RangeSet R] [WillWake ω] in
theorem endpointNamed_init {conn : ConnectionSys ω} (h : ConnectionSys.Init conn) :
    EndpointNamed (⟨conn, []⟩ : EndpointSys R ω) := by
  have hopen {x : ConnectionInnerExclusive ω} (he : x.error = none) (hl : ¬ Lost x) :
      ConnectionNamed x := by
    refine ⟨fun e h => ?_, fun h => absurd h hl⟩
    rw [he] at h
    cases h
  refine ⟨?_, List.forall_mem_nil _⟩
  cases h with
  | new => exact hopen rfl (by rintro (h | h) <;> cases h)
  | fromRaw => exact hopen rfl (by rintro (h | h) <;> cases h)

variable {ok : List (EndpointStep R ω) → EndpointSys R ω → EndpointLabel ω → Prop}
  {tr : List (EndpointStep R ω)}

/-- **No status makes a poll panic**, in every state of a run, exactly when each status that a
step of the run reports has a code when polls can look at it. -/
theorem polls_answer_iff [Inhabited ω] (h : (endpointSystem w ok).Run tr t) :
    (Answers t ∧ ∀ e ∈ tr, Answers e.pre) ↔ ∀ e ∈ tr, StatusesNamed e.pre e.label := by
  refine h.always_iff (I := EndpointNamed) ?_ (fun _ => EndpointNamed.answers) ?_
  · rintro ⟨conn, streams⟩ ⟨hc, rfl⟩
    exact endpointNamed_init hc
  · intro tr t l _ _ hi
    exact ⟨hi.step, Answers.statusesNamed⟩

end

/-- A local stream's start is refused because its connection has timed out: all statuses have
codes, and the loss is recorded when the start is left behind. -/
theorem polls_answer_timeout :
    ∃ (tr : List (EndpointStep Coalesced Nat)) (t : EndpointSys Coalesced Nat),
      (endpointSystem 64 EndpointContract).Run tr t ∧
      tr.map Step.label =
        [.stream 0 (.event (.shutdownComplete true false false false 0 110)),
          .stream 0 (.event (.startComplete 125 0 false)),
          .conn (.event (.shutdownInitiatedByTransport 110 0)),
          .stream 0 (.call (.pollStart 7 false (.ok ()))), .openStream .bidirectional] ∧
      Answers t ∧ ∀ e ∈ tr, Answers e.pre := by
  have h0 := System.Run.start
    (S := endpointSystem (R := Coalesced) (ω := Nat) 64 EndpointContract) (s := ⟨_, []⟩)
    ⟨.fromRaw none none, rfl⟩
  have hok {tr : List (EndpointStep Coalesced Nat)} {t : EndpointSys Coalesced Nat}
      {x : StreamSys Coalesced Nat} {l : StreamLabel Nat} (hx : t.streams[0]? = some x)
      (hf : l.fresh? = none) (hp : l.pieces? = none) (hc : l.completes? = none) :
      EndpointContract tr t (.stream 0 l) := by
    refine ⟨fun a ha => ?_, x, hx, fun _ h => ?_, fun _ h => ?_⟩
    · cases hf.symm.trans ha
    · cases hp.symm.trans h
    · cases hc.symm.trans h
  have h1 := h0.step (.openStream .bidirectional) (by exact ⟨(fun _ h => by cases h), trivial⟩)
  have h2 := h1.step (.stream 0 (.call (.pollStart 7 false (.ok ())))) (by exact hok rfl rfl rfl rfl)
  have h3 := h2.step (.conn (.event (.shutdownInitiatedByTransport 110 0)))
    (by exact ⟨(fun _ h => by cases h), fun _ h => by cases h⟩)
  have h4 := h3.step (.stream 0 (.event (.startComplete 125 0 false)))
    (by exact hok rfl rfl rfl rfl)
  have h5 := h4.step (.stream 0 (.event (.shutdownComplete true false false false 0 110)))
    (by exact hok rfl rfl rfl rfl)
  refine ⟨_, _, h5, rfl, (polls_answer_iff h5).mpr ?_⟩
  refine List.forall_mem_cons.mpr ⟨?_, List.forall_mem_cons.mpr ⟨?_, List.forall_mem_cons.mpr
    ⟨?_, List.forall_mem_cons.mpr ⟨fun _ _ => trivial, List.forall_mem_singleton.mpr trivial⟩⟩⟩⟩
  · intro x hx
    obtain rfl := Option.some.inj hx.symm
    refine fun _ => ⟨fun _ _ => rfl, fun _ status hst => ?_⟩
    obtain rfl := Option.some.inj hst
    exact .inr ⟨.aborted, rfl, fun _ => .inl rfl⟩
  · intro x hx
    obtain rfl := Option.some.inj hx.symm
    rintro - (h | h) <;> cases h
  · exact rfl

/-- The transport shuts a connection down with a TLS alert that has no code, and the next poll
of an HTTP/3 method panics. -/
theorem alert_status_panics : ∃ _ : StatusApi, ¬ Named 200000296 ∧
    ∃ (tr : List (EndpointStep Coalesced Nat)) (t : EndpointSys Coalesced Nat),
      (endpointSystem 64 EndpointContract).Run tr t ∧
      tr.map Step.label = [.conn (.event (.shutdownInitiatedByTransport 200000296 0))] ∧
      (∀ cx, (pollAcceptBidi t.conn.inner cx).result = .panicked unwrapErr) ∧ ¬ Answers t := by
  refine ⟨posixStatus, fun h => Bool.noConfusion (h : false = true), ?_⟩
  have h0 := System.Run.start (S := endpointSystem (R := Coalesced) (ω := Nat) 64 EndpointContract)
    (s := ⟨_, []⟩) ⟨.fromRaw none none, rfl⟩
  have h1 := h0.step (.conn (.event (.shutdownInitiatedByTransport 200000296 0)))
    (by exact ⟨(fun _ h => by cases h), fun _ h => by cases h⟩)
  refine ⟨_, _, h1, rfl, fun cx => rfl, fun h => ?_⟩
  obtain ⟨_, hpoll⟩ := h.acceptBidi 7
  cases hpoll

end MsquicAsync.H3
