import MsquicAsync.H3.SendLoop

/-!
# A payload is written exactly once

The buffer behind `writing` comes from a library: `LawfulBuf` says what is
counted on. `acceptedBy` are the bytes the underlying stream took in one poll,
and `Writes` how a poll moves a payload there. Over a run, what was accepted
since `send_data` and what `writing` has left make up the payload
(`PayloadInv`).
-/

namespace MsquicAsync.H3

open Runs

/-- The laws of `bytes::Buf`; `content` is what a buffer has left. -/
class LawfulBuf (β : Type) [Buf β] where
  content : β → Bytes
  remaining_eq : ∀ b : β, Buf.remaining b = (content b).length
  chunk_prefix : ∀ b : β, Buf.chunk b <+: content b
  exists_advance : ∀ (b : β) (n : Nat), n ≤ (content b).length →
    ∃ b', Buf.advance b n = some b' ∧ content b' = (content b).drop n

export LawfulBuf (content)

instance : LawfulBuf Bytes where
  content b := b
  remaining_eq _ := rfl
  chunk_prefix _ := List.prefix_refl _
  exists_advance b n hn := ⟨b.drop n, if_pos hn, rfl⟩

/-! ## A chain of chunks -/

/-- Buffers one behind the other, none of them empty. -/
structure Chain where
  chunks : List Bytes
  nonempty : ∀ chunk ∈ chunks, chunk ≠ []

namespace Chain

/-- Whole chunks go, and the first one that is longer is cut. -/
def advanceChunks : List Bytes → Nat → Option (List Bytes)
  | [], n => if n = 0 then some [] else none
  | chunk :: chunks, n =>
    if n < chunk.length then some (chunk.drop n :: chunks)
    else advanceChunks chunks (n - chunk.length)

theorem exists_advanceChunks (chunks : List Bytes) (n : Nat) (hn : n ≤ chunks.flatten.length) :
    ∃ rest, advanceChunks chunks n = some rest ∧ rest.flatten = chunks.flatten.drop n := by
  induction chunks generalizing n with
  | nil =>
    have h0 : n = 0 := Nat.le_zero.mp hn
    exact ⟨[], if_pos h0, List.drop_nil.symm⟩
  | cons chunk chunks ih =>
    rw [List.flatten_cons, List.length_append] at hn
    unfold advanceChunks
    by_cases h : n < chunk.length
    · rw [if_pos h]
      refine ⟨_, rfl, ?_⟩
      rw [List.flatten_cons, List.flatten_cons, List.drop_append_of_le_length (by omega)]
    · rw [if_neg h]
      obtain ⟨rest, hrest, hflat⟩ := ih (n - chunk.length) (by omega)
      have hgone : chunk.drop n = [] := List.drop_eq_nil_of_le (Nat.not_lt.mp h)
      refine ⟨rest, hrest, ?_⟩
      rw [hflat, List.flatten_cons, List.drop_append, hgone, List.nil_append]

theorem nonempty_of_advanceChunks {chunks rest : List Bytes} {n : Nat}
    (h : advanceChunks chunks n = some rest) (hne : ∀ chunk ∈ chunks, chunk ≠ []) :
    ∀ chunk ∈ rest, chunk ≠ [] := by
  induction chunks generalizing n with
  | nil =>
    unfold advanceChunks at h
    split at h
    · cases h
      exact hne
    · cases h
  | cons chunk chunks ih =>
    obtain ⟨_, hchunks⟩ := List.forall_mem_cons.mp hne
    unfold advanceChunks at h
    split at h
    · next hlt =>
      cases h
      refine List.forall_mem_cons.mpr ⟨?_, hchunks⟩
      apply List.ne_nil_of_length_pos
      rw [List.length_drop]
      omega
    · exact ih h hchunks

instance : Buf Chain where
  remaining b := b.chunks.flatten.length
  chunk b := b.chunks.headD []
  advance b n :=
    match h : advanceChunks b.chunks n with
    | none => none
    | some rest => some ⟨rest, nonempty_of_advanceChunks h b.nonempty⟩

theorem advance_eq {b : Chain} {n : Nat} {rest : List Bytes}
    (h : advanceChunks b.chunks n = some rest) :
    Buf.advance b n = some ⟨rest, nonempty_of_advanceChunks h b.nonempty⟩ := by
  simp only [Buf.advance]
  split
  · next h' => cases h.symm.trans h'
  · next h' =>
    cases h.symm.trans h'
    rfl

instance : LawfulBuf Chain where
  content b := b.chunks.flatten
  remaining_eq _ := rfl
  chunk_prefix b := by
    show b.chunks.headD [] <+: b.chunks.flatten
    cases b.chunks with
    | nil => exact List.nil_prefix
    | cons chunk chunks => exact ⟨chunks.flatten, List.flatten_cons.symm⟩
  exists_advance b n hn := by
    obtain ⟨rest, hrest, hflat⟩ := exists_advanceChunks b.chunks n hn
    exact ⟨_, advance_eq hrest, hflat⟩

end Chain

/-! ## One poll -/

variable {σ β δ : Type}

/-- What the underlying stream takes: of each chunk as many bytes as its answer says. -/
def acceptedBy : List (StreamUse σ) → List (Except WriteError Nat) → Bytes
  | .pollWrite _ chunk :: calls, .ok cnt :: answers => chunk.take cnt ++ acceptedBy calls answers
  | _ :: calls, _ :: answers => acceptedBy calls answers
  | _, _ => []

/-- A write accepts at least one byte, and not more than it was given. -/
def AnswersFit : List (StreamUse σ) → List (Except WriteError Nat) → Prop
  | .pollWrite _ chunk :: calls, .ok cnt :: answers =>
    (1 ≤ cnt ∧ cnt ≤ chunk.length) ∧ AnswersFit calls answers
  | _ :: calls, _ :: answers => AnswersFit calls answers
  | _, _ => True

section

variable [Buf β]

/-- A lent stream is with a future that writes the first chunk of `data`, which is not done. -/
def SendStream.Lent (x : SendStream σ β) (data : β) : Prop :=
  x.stream = none →
    Buf.remaining data ≠ 0 ∧ ∃ stream, x.writeFut = .running (stream, Buf.chunk data)

variable {x : SendStream σ β} {data : β}

/-- The stream is lent, or stays so: the chunk under way is the first one of `data`. -/
theorem SendStream.lend_chunk (h : x.Lent data) : ∃ stream,
    x.lend (Buf.chunk data) =
      { stream := none, writing := x.writing, writeFut := .running (stream, Buf.chunk data) } := by
  unfold lend
  cases hs : x.stream with
  | some stream => exact ⟨stream, rfl⟩
  | none =>
    obtain ⟨_, stream, hf⟩ := h hs
    refine ⟨stream, ?_⟩
    cases x
    simp only at hs hf
    rw [hs, hf]

variable [LawfulBuf β]

theorem advance_accepted (data : β) {cnt : Nat} (h : cnt ≤ (Buf.chunk data).length) :
    ∃ rest, Buf.advance data cnt = some rest ∧
      content data = (Buf.chunk data).take cnt ++ content rest := by
  obtain ⟨tail, htail⟩ := LawfulBuf.chunk_prefix data
  have hlen : cnt ≤ (content data).length := by
    rw [← htail, List.length_append]
    omega
  obtain ⟨rest, hadv, hrest⟩ := LawfulBuf.exists_advance data cnt hlen
  refine ⟨rest, hadv, ?_⟩
  rw [hrest, ← htail, List.drop_append_of_le_length h, ← List.append_assoc, List.take_append_drop]

variable [StatusApi]

/-- How a poll that writes `data` ends, when `acc` has been accepted. -/
inductive Writes (answers : List (Except WriteError Nat)) (data : β) (acc : Bytes)
    (x : SendStream σ β) :
    Outcome (Poll (Except (StreamErrorIncoming WriteError) Unit)) → Prop where
  | done (hw : x.writing = none) (hs : x.stream ≠ none) (hacc : content data = acc) :
      Writes answers data acc x (.returned (.ready (.ok ())))
  | pending {rest : β} (hw : x.writing = some rest) (hl : x.Lent rest)
      (hacc : content data = acc ++ content rest) : Writes answers data acc x (.returned .pending)
  | failed {rest : β} (e : WriteError) (he : .error e ∈ answers) (hw : x.writing = some rest)
      (hs : x.stream ≠ none) (hacc : content data = acc ++ content rest) :
      Writes answers data acc x ((convertWriteError e).map fun e => .ready (.error e))

variable {answers : List (Except WriteError Nat)}

theorem Writes.of_advance {answers' : List (Except WriteError Nat)} {rest : β} {front acc : Bytes}
    {r : Outcome (Poll (Except (StreamErrorIncoming WriteError) Unit))}
    (h : Writes answers' rest acc x r) (hsub : answers' ⊆ answers)
    (hfront : content data = front ++ content rest) :
    Writes answers data (front ++ acc) x r := by
  cases h with
  | done hw hs hacc => exact .done hw hs (by rw [hfront, hacc])
  | pending hw hl hacc => exact .pending hw hl (by rw [hfront, hacc, List.append_assoc])
  | failed e he hw hs hacc =>
    exact .failed e (hsub he) hw hs (by rw [hfront, hacc, List.append_assoc])

theorem writes_done (answers : List (Except WriteError Nat)) (h : x.Lent data)
    (hr : Buf.remaining data = 0) :
    Writes answers data (acceptedBy (x.pollReadyLoop data answers).calls answers)
      (x.pollReadyLoop data answers).state (x.pollReadyLoop data answers).result := by
  have hnil : content data = [] := by
    rw [LawfulBuf.remaining_eq] at hr
    exact List.eq_nil_of_length_eq_zero hr
  rw [SendStream.pollReadyLoop_done hr]
  exact .done rfl (fun hs => (h hs).1 hr) (by cases answers <;> exact hnil)

/-- **The loop writes the front of the payload**, and nothing twice. -/
theorem writes_pollReadyLoop (h : x.Lent data)
    (hfit : AnswersFit (x.pollReadyLoop data answers).calls answers) :
    Writes answers data (acceptedBy (x.pollReadyLoop data answers).calls answers)
      (x.pollReadyLoop data answers).state (x.pollReadyLoop data answers).result := by
  induction answers generalizing x data with
  | nil =>
    by_cases hr : Buf.remaining data = 0
    · exact writes_done [] h hr
    obtain ⟨stream, hlend⟩ := SendStream.lend_chunk h
    simp only [SendStream.pollReadyLoop, hr, if_false, hlend]
    exact .pending rfl (fun _ => ⟨hr, stream, rfl⟩) rfl
  | cons answer answers ih =>
    by_cases hr : Buf.remaining data = 0
    · exact writes_done (answer :: answers) h hr
    obtain ⟨stream, hlend⟩ := SendStream.lend_chunk h
    rw [SendStream.pollReadyLoop, if_neg hr] at hfit ⊢
    simp only [hlend] at hfit ⊢
    cases answer with
    | error e => exact .failed e List.mem_cons_self rfl nofun rfl
    | ok cnt =>
      have hcnt : cnt ≤ (Buf.chunk data).length := by
        simp only at hfit
        split at hfit <;> exact hfit.1.2
      obtain ⟨rest, hadv, hrest⟩ := advance_accepted data hcnt
      simp only [hadv] at hfit ⊢
      exact (ih (x := ⟨some stream, some data, .answered⟩) nofun hfit.2).of_advance
        (List.subset_cons_self _ _) hrest

/-- The loop ends: each round takes a byte, and it waits only where a write has not answered. -/
theorem pollReadyLoop_ends (h : x.Lent data)
    (hfit : AnswersFit (x.pollReadyLoop data answers).calls answers) :
    (x.pollReadyLoop data answers).calls.length ≤ (content data).length ∧
      ((x.pollReadyLoop data answers).result = .returned .pending →
        answers.length < (x.pollReadyLoop data answers).calls.length) := by
  have hdone (answers : List (Except WriteError Nat)) {x : SendStream σ β} {data : β}
      (hr : Buf.remaining data = 0) :
      (x.pollReadyLoop data answers).calls.length ≤ (content data).length ∧
        ((x.pollReadyLoop data answers).result = .returned .pending →
          answers.length < (x.pollReadyLoop data answers).calls.length) := by
    rw [SendStream.pollReadyLoop_done hr]
    exact ⟨Nat.zero_le _, nofun⟩
  induction answers generalizing x data with
  | nil =>
    by_cases hr : Buf.remaining data = 0
    · exact hdone [] hr
    obtain ⟨stream, hlend⟩ := SendStream.lend_chunk h
    simp only [SendStream.pollReadyLoop, hr, if_false, hlend]
    rw [LawfulBuf.remaining_eq] at hr
    exact ⟨Nat.pos_of_ne_zero hr, fun _ => Nat.zero_lt_one⟩
  | cons answer answers ih =>
    by_cases hr : Buf.remaining data = 0
    · exact hdone (answer :: answers) hr
    obtain ⟨stream, hlend⟩ := SendStream.lend_chunk h
    rw [SendStream.pollReadyLoop, if_neg hr] at hfit ⊢
    simp only [hlend] at hfit ⊢
    rw [LawfulBuf.remaining_eq] at hr
    cases answer with
    | error e =>
      simp only
      refine ⟨Nat.pos_of_ne_zero hr, fun hp => ?_⟩
      cases hc : convertWriteError e <;> rw [hc] at hp <;> cases hp
    | ok cnt =>
      have hcnt : 1 ≤ cnt ∧ cnt ≤ (Buf.chunk data).length := by
        simp only at hfit
        split at hfit <;> exact hfit.1
      obtain ⟨rest, hadv, hrest⟩ := advance_accepted data hcnt.2
      simp only [hadv] at hfit ⊢
      obtain ⟨hle, hpend⟩ := ih (x := ⟨some stream, some data, .answered⟩) nofun hfit.2
      have hlen := congrArg List.length hrest
      rw [List.length_append, List.length_take] at hlen
      constructor
      · rw [List.length_cons]
        omega
      · intro hp
        exact Nat.succ_lt_succ (hpend hp)

/-! ## Runs -/

/-- The last payload that `send_data` took, and what the stream has accepted of it since. -/
def sentSince : List (SendStep σ β δ) → Option (β × Bytes)
  | [] => none
  | e :: tr =>
    match e.label, e.out.result with
    | .sendData data, .sendData (.returned (.ok ())) => some (data, [])
    | .pollReady answers, _ =>
      (sentSince tr).map fun (data, acc) => (data, acc ++ acceptedBy e.out.calls answers)
    | _, _ => sentSince tr

/-- The underlying stream accepts at least one byte of a chunk, and not more than that. -/
def PayloadContract [Buf δ] (_ : List (SendStep σ β δ)) (x : SendStream σ β) :
    SendOp β δ → Prop
  | .pollReady answers => AnswersFit (x.pollReady answers).calls answers
  | _ => True

/-- What was accepted and what `writing` has left make up the payload. -/
inductive PayloadInv (x : SendStream σ β) : Option (β × Bytes) → Prop where
  | idle (hw : x.writing = none) (hs : x.stream ≠ none) : PayloadInv x none
  | done {data : β} {acc : Bytes} (hw : x.writing = none) (hs : x.stream ≠ none)
      (hacc : content data = acc) : PayloadInv x (some (data, acc))
  | rest {data rest : β} {acc : Bytes} (hw : x.writing = some rest) (hl : x.Lent rest)
      (hacc : content data = acc ++ content rest) : PayloadInv x (some (data, acc))

variable {acc : Bytes}

theorem Writes.inv {r : Outcome (Poll (Except (StreamErrorIncoming WriteError) Unit))}
    (h : Writes answers data acc x r) : PayloadInv x (some (data, acc)) := by
  cases h with
  | done hw hs hacc => exact .done hw hs hacc
  | pending hw hl hacc => exact .rest hw hl hacc
  | failed e he hw hs hacc => exact .rest hw (fun h => absurd h hs) hacc

/-- A poll of a stream whose payload is `data` writes on where the last one stopped. -/
theorem PayloadInv.writes (h : PayloadInv x (some (data, acc)))
    (hfit : AnswersFit (x.pollReady answers).calls answers) :
    Writes answers data (acc ++ acceptedBy (x.pollReady answers).calls answers)
      (x.pollReady answers).state (x.pollReady answers).result := by
  cases h with
  | done hw hs hacc =>
    unfold SendStream.pollReady
    simp only [hw]
    have hnil : acceptedBy ([] : List (StreamUse σ)) answers = [] := by cases answers <;> rfl
    rw [hnil, List.append_nil]
    exact .done hw hs hacc
  | rest hw hl hacc =>
    unfold SendStream.pollReady at hfit ⊢
    simp only [hw] at hfit ⊢
    exact (writes_pollReadyLoop hl hfit).of_advance (List.Subset.refl _) hacc

theorem PayloadInv.ends (h : PayloadInv x (some (data, acc)))
    (hfit : AnswersFit (x.pollReady answers).calls answers) :
    (x.pollReady answers).calls.length ≤ (content data).length ∧
      ((x.pollReady answers).result = .returned .pending →
        answers.length < (x.pollReady answers).calls.length) := by
  cases h with
  | done hw hs hacc =>
    unfold SendStream.pollReady
    simp only [hw]
    exact ⟨Nat.zero_le _, nofun⟩
  | rest hw hl hacc =>
    unfold SendStream.pollReady at hfit ⊢
    simp only [hw] at hfit ⊢
    obtain ⟨hle, hpend⟩ := pollReadyLoop_ends hl hfit
    refine ⟨?_, hpend⟩
    rw [hacc, List.length_append]
    omega

variable [Buf δ] {tr : List (SendStep σ β δ)}

omit [Buf β] [LawfulBuf β] [StatusApi] [Buf δ] in
theorem sentSince_sendData {e : SendStep σ β δ} (hl : e.label = .sendData data)
    {r : Except (StreamErrorIncoming WriteError) Unit}
    (hr : e.out.result = .sendData (.returned r)) :
    sentSince (e :: tr) = if r = .ok () then some (data, []) else sentSince tr := by
  rw [sentSince, hl, hr]
  cases r <;> rfl

omit [Buf β] [LawfulBuf β] [StatusApi] [Buf δ] in
theorem sentSince_of_other {e : SendStep σ β δ} (hs : ¬ e.label.IsSendData)
    (hp : ∀ answers, e.label ≠ .pollReady answers) : sentSince (e :: tr) = sentSince tr := by
  rw [sentSince]
  split
  · next hl _ => exact absurd (show e.label.IsSendData by rw [hl]; trivial) hs
  · next hl => exact absurd hl (hp _)
  · rfl

omit [StatusApi] in
theorem PayloadInv.sendData {sent : Option (β × Bytes)} (h : PayloadInv x sent) (data : β) :
    ((x.sendData data).result = .returned (.ok ()) ∧
      PayloadInv (x.sendData data).state (some (data, []))) ∨
    ((x.sendData data).state = x ∧ ∃ e, (x.sendData data).result = .returned (.error e)) := by
  have htake (hw : x.writing = none) (hs : x.stream ≠ none) :
      (x.sendData data).result = .returned (.ok ()) ∧
      PayloadInv (x.sendData data).state (some (data, [])) := by
    unfold SendStream.sendData
    rw [if_neg (by rw [hw]; exact Bool.noConfusion)]
    exact ⟨rfl, .rest rfl (fun h => absurd h hs) rfl⟩
  cases h with
  | idle hw hs => exact .inl (htake hw hs)
  | done hw hs hacc => exact .inl (htake hw hs)
  | rest hw hl hacc =>
    right
    unfold SendStream.sendData
    rw [if_pos (by rw [hw]; rfl)]
    exact ⟨rfl, _, rfl⟩

theorem payloadInv_of_run (h : (sendSystem PayloadContract).Run tr x) :
    PayloadInv x (sentSince tr) := by
  refine h.invariant (I := fun tr x => PayloadInv x (sentSince tr)) ?_ ?_
  · rintro x ⟨stream, rfl⟩
    exact .idle rfl nofun
  · intro tr x op _ hok ih
    cases op with
    | sendData data =>
      show PayloadInv (x.sendData data).state _
      rcases ih.sendData data with ⟨hr, hinv⟩ | ⟨hstate, e, hr⟩
      · rw [sentSince_sendData rfl (congrArg SendRes.sendData hr), if_pos rfl]
        exact hinv
      · rw [sentSince_sendData rfl (congrArg SendRes.sendData hr), if_neg nofun, hstate]
        exact ih
    | pollReady answers =>
      show PayloadInv (x.pollReady answers).state ((sentSince tr).map _)
      generalize sentSince tr = sent at ih
      cases ih with
      | idle hw hs =>
        unfold SendStream.pollReady
        rw [hw]
        exact .idle hw hs
      | done hw hs hacc => exact ((PayloadInv.done hw hs hacc).writes hok).inv
      | rest hw hl hacc => exact ((PayloadInv.rest hw hl hacc).writes hok).inv
    | pollFinish | reset | sendId | pollSend =>
      rw [sentSince_of_other id fun _ h => by cases h]
      show PayloadInv (SendStream.step x _).state (sentSince tr)
      rw [SendStream.step_state id fun _ h => by cases h]
      exact ih

/-- `acc` is the front of the payload `data`, and `writing` has the rest. -/
def SendStream.HasRest (x : SendStream σ β) (data : β) (acc : Bytes) : Prop :=
  ∃ rest, x.writing = some rest ∧ content data = acc ++ content rest

/-- What a call finds of the payload. `poll_ready` ends in one of three ways, with a call for each
byte at most, and waits only for a write that has not answered; `poll_send` writes its own buffer
behind the payload. -/
def PayloadLaw (tr : List (SendStep σ β δ)) (e : SendStep σ β δ) : Prop :=
  ∀ data acc, sentSince (e :: tr) = some (data, acc) →
    match e.label with
    | .pollReady answers =>
      (e.out.result = .poll (.returned (.ready (.ok ()))) →
        acc = content data ∧ e.post.writing = none) ∧
      (∀ err, e.out.result = .poll (.returned (.ready (.error err))) → e.post.HasRest data acc) ∧
      (e.out.result = .poll (.returned .pending) →
        e.post.HasRest data acc ∧ answers.length < e.out.calls.length) ∧
      e.out.calls.length ≤ (content data).length ∧
      ((∀ a ∈ answers, ∃ cnt, a = .ok cnt) → (content data).length ≤ answers.length →
        e.out.result = .poll (.returned (.ready (.ok ()))))
    | .pollSend .. => e.out.calls ≠ [] → acc = content data
    | _ => True

omit [Buf δ] in
theorem Writes.law {acc : Bytes} {r : Outcome (Poll (Except (StreamErrorIncoming WriteError) Unit))}
    (h : Writes answers data acc x r) :
    (r = .returned (.ready (.ok ())) → acc = content data ∧ x.writing = none) ∧
    (∀ err, r = .returned (.ready (.error err)) → x.HasRest data acc) ∧
    (r = .returned .pending → x.HasRest data acc) ∧
    ((∀ a ∈ answers, ∃ cnt, a = .ok cnt) →
      r = .returned (.ready (.ok ())) ∨ r = .returned .pending) := by
  cases h with
  | done hw hs hacc => exact ⟨fun _ => ⟨hacc.symm, hw⟩, nofun, nofun, fun _ => .inl rfl⟩
  | pending hw hl hacc => exact ⟨nofun, nofun, fun _ => ⟨_, hw, hacc⟩, fun _ => .inr rfl⟩
  | failed e he hw hs hacc =>
    refine ⟨fun hr => ?_, fun _ _ => ⟨_, hw, hacc⟩, fun _ => ⟨_, hw, hacc⟩, fun hall => ?_⟩
    · cases hc : convertWriteError e <;> rw [hc] at hr <;> cases hr
    · obtain ⟨cnt, hcnt⟩ := hall _ he
      cases hcnt

/-- **A payload is written exactly once.** -/
theorem payload_written_once (h : (sendSystem PayloadContract).Run tr x) {e : SendStep σ β δ}
    {tr' : List (SendStep σ β δ)} (he : e :: tr' <:+ tr) : PayloadLaw tr' e := by
  obtain ⟨hr, hok, heq⟩ := h.of_suffix he
  have hinv := payloadInv_of_run hr
  rw [heq] at hok ⊢
  intro data acc hsent
  cases hl : e.label with
  | pollReady answers =>
    rw [hl] at hok hsent
    obtain ⟨⟨data', acc'⟩, hprev, hpair⟩ := Option.map_eq_some_iff.mp hsent
    obtain ⟨rfl, rfl⟩ := Prod.mk.inj hpair
    rw [hprev] at hinv
    obtain ⟨hdone, hfailed, hpending, hall⟩ := (hinv.writes hok).law
    obtain ⟨hle, hlt⟩ := hinv.ends hok
    refine ⟨fun hr => hdone (SendRes.poll.inj hr), fun err hr => hfailed err (SendRes.poll.inj hr),
      fun hr => ⟨hpending (SendRes.poll.inj hr), hlt (SendRes.poll.inj hr)⟩, hle, ?_⟩
    intro hcnt henough
    rcases hall hcnt with hr | hr
    · exact congrArg SendRes.poll hr
    · have := hlt hr
      omega
  | pollSend buf answer =>
    rw [hl, sentSince_of_other id fun _ h => by cases h] at hsent
    rw [hsent] at hinv
    intro hcalls
    cases hinv with
    | done hw hs hacc => exact hacc.symm
    | rest hw hl hacc =>
      refine absurd ?_ hcalls
      show (e.pre.pollSend buf answer).calls = []
      unfold SendStream.pollSend
      rw [if_pos (by rw [hw]; rfl)]
  | sendData | pollFinish | reset | sendId => trivial

end

/-- Three bytes in two chunks. -/
def twoChunks : Chain := ⟨[[1, 2], [3]], by decide⟩

def unsent : SendStream Nat Chain := ⟨some 0, some twoChunks, .unreachable⟩

theorem pollReady_first_byte :
    unsent.pollReady [.ok 1] =
      { state := ⟨none, some ⟨[[2], [3]], by decide⟩, .running (0, [2])⟩
        result := .returned .pending
        calls := [.pollWrite 0 [1, 2], .pollWrite 0 [2]] } := by
  have hadv : Buf.advance twoChunks 1 = some ⟨[[2], [3]], by decide⟩ := Chain.advance_eq rfl
  simp only [SendStream.pollReady, unsent]
  rw [SendStream.pollReadyLoop, if_neg (by decide)]
  simp only [SendStream.lend, hadv]
  rw [SendStream.pollReadyLoop, if_neg (by decide)]
  rfl

theorem pollReady_last_bytes :
    (unsent.pollReady [.ok 1]).state.pollReady [.ok 1, .ok 1] =
      { state := ⟨some 0, none, .answered⟩
        result := .returned (.ready (.ok ()))
        calls := [.pollWrite 0 [2], .pollWrite 0 [3]] } := by
  have h₁ : Buf.advance (⟨[[2], [3]], by decide⟩ : Chain) 1 = some ⟨[[3]], by decide⟩ :=
    Chain.advance_eq rfl
  have h₂ : Buf.advance (⟨[[3]], by decide⟩ : Chain) 1 = some ⟨[], by decide⟩ :=
    Chain.advance_eq rfl
  rw [pollReady_first_byte]
  simp only [SendStream.pollReady]
  rw [SendStream.pollReadyLoop, if_neg (by decide)]
  simp only [SendStream.lend, h₁]
  rw [SendStream.pollReadyLoop, if_neg (by decide)]
  simp only [SendStream.lend, h₂]
  rw [SendStream.pollReadyLoop, if_pos (by decide)]
  rfl

/-- Two chunks are written in two polls. -/
theorem payload_written_once_two_chunks :
    ∃ (tr : List (SendStep Nat Chain Bytes)) (x : SendStream Nat Chain)
        (e : SendStep Nat Chain Bytes),
      (sendSystem PayloadContract).Run (e :: tr) x ∧
      (e :: tr).map Step.label =
        [.pollReady [.ok 1, .ok 1], .pollReady [.ok 1], .sendData twoChunks] ∧
      e.out.result = .poll (.returned (.ready (.ok ()))) ∧
      sentSince (e :: tr) = some (twoChunks, [1, 2, 3]) ∧ PayloadLaw tr e := by
  have hfirst : (unsent.pollReady [.ok 1]).calls = [.pollWrite 0 [1, 2], .pollWrite 0 [2]] := by
    rw [pollReady_first_byte]
  have hlast : ((unsent.pollReady [.ok 1]).state.pollReady [.ok 1, .ok 1]).calls =
      [.pollWrite 0 [2], .pollWrite 0 [3]] := by
    rw [pollReady_last_bytes]
  have h0 := System.Run.start
    (S := sendSystem (σ := Nat) (β := Chain) (δ := Bytes) PayloadContract) ⟨0, rfl⟩
  have h1 := h0.step (SendOp.sendData twoChunks) trivial
  have hfit1 : AnswersFit (unsent.pollReady [.ok 1]).calls [.ok 1] := by
    rw [hfirst]
    exact ⟨by decide, trivial⟩
  have h2 := h1.step (SendOp.pollReady [.ok 1]) hfit1
  have hfit2 : AnswersFit ((unsent.pollReady [.ok 1]).state.pollReady [.ok 1, .ok 1]).calls
      [.ok 1, .ok 1] := by
    rw [hlast]
    exact ⟨by decide, by decide, trivial⟩
  have h3 := h2.step (SendOp.pollReady [.ok 1, .ok 1]) hfit2
  refine ⟨_, _, _, h3, rfl, ?_, ?_, payload_written_once h3 (List.suffix_refl _)⟩
  · show SendRes.poll ((unsent.pollReady [.ok 1]).state.pollReady [.ok 1, .ok 1]).result = _
    rw [pollReady_last_bytes]
  show some (twoChunks, ([] ++ acceptedBy (unsent.pollReady [.ok 1]).calls [.ok 1]) ++
    acceptedBy ((unsent.pollReady [.ok 1]).state.pollReady [.ok 1, .ok 1]).calls _) = _
  rw [hfirst, hlast]
  rfl

end MsquicAsync.H3
