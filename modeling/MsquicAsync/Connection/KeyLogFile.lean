import MsquicAsync.Lib.Records
import MsquicAsync.Lib.Runs
import MsquicAsync.Connection.Events
import MsquicAsync.Listener.State

/-!
# The key-log file of a listener

The connections that a listener accepts write their key logs to clones of one
file, which share its position. Each Connected handler holds the lock of its own
connection only, so between two of its appends any other handler may append
(`KeyLogWriter` is a handler that has not finished). The lines come out whole
exactly when no handler begins a line while another one is inside a line
(`key_log_lines_whole_iff`).
-/

namespace MsquicAsync

open Runs Records

/-! ## The file -/

/-- A file that is not buffered, open through any number of clones. -/
structure SharedFile where
  text : List Char := []
  position : Nat := 0

namespace SharedFile

def seekEnd (f : SharedFile) : SharedFile := { f with position := f.text.length }

/-- A gap behind the end is filled with zeros. -/
def write (f : SharedFile) (fragment : List Char) : SharedFile where
  text :=
    (f.text ++ List.replicate (f.position - f.text.length) '\x00').take f.position ++ fragment ++
      f.text.drop (f.position + fragment.length)
  position := f.position + fragment.length

/-- The handles of `call` are clones of the file. -/
def perform (f : SharedFile) : ConnectionCall → SharedFile
  | .seekEnd _ => f.seekEnd
  | .append _ fragment => f.write fragment.toList
  | _ => f

theorem write_at_end {f : SharedFile} (h : f.position = f.text.length) (fragment : List Char) :
    f.write fragment = { f with text := f.text ++ fragment }.seekEnd := by
  unfold write seekEnd
  have hdrop : f.text.drop (f.text.length + fragment.length) = [] :=
    List.drop_eq_nil_of_le (by omega)
  simp only [h, Nat.sub_self, List.replicate_zero, List.append_nil, List.take_length, hdrop,
    List.length_append]

end SharedFile

/-! ## The handlers -/

/-- A Connected handler on its way: whether it has yet to seek the end, what is left of the line it
is inside, and the lines it has not begun. -/
structure KeyLogWriter extends Writer String where
  file : Nat := 0
  seek : Bool := false

namespace KeyLogWriter

variable {ω : Type}

/-- The handler of `Connected` on `x` before its first call. -/
def ofConnected (x : ConnectionInnerExclusive ω) (secrets : Nat → TlsSecrets) : KeyLogWriter :=
  match x.tlsSecrets, x.sslkeylogFile with
  | some box, some file => { records := keyLogLines (secrets box), file := file, seek := true }
  | _, _ => {}

/-- The calls the handler has yet to make. -/
def calls (w : KeyLogWriter) : List ConnectionCall :=
  (if w.seek then [.seekEnd w.file] else []) ++ (w.rest ++ w.records.flatten).map (.append w.file)

/-- The next call, and the handler after it. -/
def next (w : KeyLogWriter) : Option (ConnectionCall × KeyLogWriter) :=
  if w.seek then some (.seekEnd w.file, { w with seek := false })
  else
    match w.rest, w.records with
    | fragment :: rest, _ => some (.append w.file fragment, { w with rest := rest })
    | [], (fragment :: rest) :: records =>
      some (.append w.file fragment, { w with rest := rest, records := records })
    | [], _ => none

theorem calls_ofConnected (x : ConnectionInnerExclusive ω) (secrets : Nat → TlsSecrets) :
    (ofConnected x secrets).calls = (Connection.handleEventConnected x secrets).calls := by
  unfold ofConnected Connection.handleEventConnected
  cases x.tlsSecrets <;> cases x.sslkeylogFile <;> rfl

theorem next_cases {w w' : KeyLogWriter} {call : ConnectionCall}
    (h : w.next = some (call, w')) :
    (w.seek = true ∧ call = .seekEnd w.file ∧ w' = { w with seek := false }) ∨
    (w.seek = false ∧ w'.seek = false ∧ w'.file = w.file ∧
      ∃ fragment, call = .append w.file fragment ∧ w.toWriter.Emits fragment w'.toWriter) := by
  obtain ⟨⟨rest, records⟩, file, seek⟩ := w
  cases seek with
  | true =>
    obtain ⟨rfl, rfl⟩ := Prod.mk.inj (Option.some.inj h)
    exact .inl ⟨rfl, rfl, rfl⟩
  | false =>
    right
    cases rest with
    | cons fragment rest =>
      obtain ⟨rfl, rfl⟩ := Prod.mk.inj (Option.some.inj h)
      exact ⟨rfl, rfl, rfl, fragment, rfl, .proceed⟩
    | nil =>
      rcases records with _ | ⟨_ | ⟨fragment, rest⟩, records⟩
      · cases h
      · cases h
      · obtain ⟨rfl, rfl⟩ := Prod.mk.inj (Option.some.inj h)
        exact ⟨rfl, rfl, rfl, fragment, rfl, .begin⟩

/-- One after the other, they are the handler's calls. -/
theorem calls_of_next {w w' : KeyLogWriter} {call : ConnectionCall}
    (h : w.next = some (call, w')) : w.calls = call :: w'.calls := by
  rcases next_cases h with ⟨hs, rfl, rfl⟩ | ⟨hs, hs', hf, fragment, rfl, he⟩
  · unfold calls
    rw [if_pos hs]
    rfl
  · unfold calls
    rw [hs, hs', hf]
    generalize w.toWriter = v, w'.toWriter = v' at he ⊢
    cases he <;> rfl

end KeyLogWriter

/-! ## Connections and their handlers -/

structure KeyLogConn (ω : Type) where
  inner : ConnectionInnerExclusive ω
  writer : KeyLogWriter := {}

/-- A listener, the connections it has accepted, and its key-log file. -/
structure KeyLogSys (ω : Type) where
  listener : ListenerInnerExclusive ω
  conns : List (KeyLogConn ω) := []
  file : SharedFile

inductive KeyLogLabel where
  | newConnection (connection : Nat) (clone : Option Nat) (box : Nat)
      (setParam setConfiguration : NativeResult)
  /-- The handler of `Connected` gets the lock of the connection at an index. -/
  | connected (i : Nat) (secrets : Nat → TlsSecrets)
  /-- The handler of the connection at an index makes its next call. -/
  | write (i : Nat)

abbrev KeyLogStep (ω : Type) := Step (KeyLogSys ω) KeyLogLabel (List ConnectionCall)

namespace KeyLogSys

variable {ω : Type}

/-- The second component are the calls on the file. -/
def next (s : KeyLogSys ω) : KeyLogLabel → KeyLogSys ω × List ConnectionCall
  | .newConnection connection clone box setParam setConfiguration =>
    let r := Listener.handleEventNewConnection s.listener connection clone box setParam
      setConfiguration
    let queued := r.state.newConnections.drop s.listener.newConnections.length
    ({ s with
        listener := r.state
        conns := s.conns ++
          queued.map fun a => { inner := .new .connected a.tlsSecrets a.sslkeylogFile } }, [])
  | .connected i secrets =>
    match s.conns[i]? with
    | some c =>
      ({ s with
          conns := s.conns.set i
            { inner := (Connection.handleEventConnected c.inner secrets).state
              writer := .ofConnected c.inner secrets } }, [])
    | none => (s, [])
  | .write i =>
    match s.conns[i]? with
    | some c =>
      match c.writer.next with
      | some (call, writer) =>
        ({ s with
            conns := s.conns.set i { c with writer := writer }
            file := s.file.perform call }, [call])
      | none => (s, [])
    | none => (s, [])

/-- The handlers on their way. -/
def writers (s : KeyLogSys ω) : List (Writer String) := s.conns.map fun c => c.writer.toWriter

end KeyLogSys

/-- The handler has made its calls. -/
def KeyLogWriter.Done (w : KeyLogWriter) : Prop :=
  w.seek = false ∧ w.rest = [] ∧ w.records = []

/-- The handler's next call appends the label of a line. -/
def KeyLogWriter.BeginsLine (w : KeyLogWriter) : Prop :=
  w.seek = false ∧ w.rest = [] ∧ ∃ label line lines, w.records = (label :: line) :: lines

theorem KeyLogWriter.BeginsLine.next_some {w : KeyLogWriter} (h : w.BeginsLine) :
    w.next ≠ none := by
  obtain ⟨hs, hrest, label, line, lines, hrecords⟩ := h
  unfold next
  rw [if_neg (by rw [hs]; exact Bool.noConfusion), hrest, hrecords]
  exact Option.some_ne_none _

/-- A Connected event waits for the connection's lock, and MsQuic has recorded the client random. -/
def KeyLogContract {ω : Type} (_ : List (KeyLogStep ω)) (s : KeyLogSys ω) : KeyLogLabel → Prop
  | .connected i secrets => ∀ c, s.conns[i]? = some c →
    c.writer.Done ∧ ∀ box, c.inner.tlsSecrets = some box → (secrets box).clientRandomIsSet = true
  | _ => True

def keyLogSystem (ω : Type) : System (KeyLogSys ω) KeyLogLabel (List ConnectionCall) where
  init s := s.conns = []
  ok := KeyLogContract
  next := KeyLogSys.next

/-! ## Lines -/

/-- The labels of the lines. -/
def keyLogLabels : List String :=
  ["CLIENT_EARLY_TRAFFIC_SECRET", "CLIENT_HANDSHAKE_TRAFFIC_SECRET",
    "SERVER_HANDSHAKE_TRAFFIC_SECRET", "CLIENT_TRAFFIC_SECRET_0", "SERVER_TRAFFIC_SECRET_0"]

/-- What the appends of one or more fragments come to. -/
def fragmentsText (fragments : List String) : List Char := fragments.flatMap String.toList

/-- The lines of a connection. -/
def keyLogTexts (s : TlsSecrets) : List (List Char) := (keyLogLines s).map fragmentsText

/-- A label, the client random and a secret in hex. -/
def HasKeyLogForm (s : TlsSecrets) (line : List Char) : Prop :=
  ∃ label ∈ keyLogLabels, ∃ secret : Bytes,
    line = label.toList ++ " ".toList ++ (hexEncode s.clientRandom).toList ++ " ".toList ++
      (hexEncode secret).toList ++ "\n".toList

theorem mem_keyLogLines {s : TlsSecrets} {line : List String} (h : line ∈ keyLogLines s) :
    ∃ label ∈ keyLogLabels, ∃ secret, line = keyLogLine label
      (if s.clientRandomIsSet then hexEncode s.clientRandom else "") secret := by
  simp only [keyLogLines, List.mem_append] at h
  have hline {isSet : Bool} {label : String} {cr : String} {secret : Bytes}
      (hl : label ∈ keyLogLabels) (h : line ∈ if isSet then [keyLogLine label cr secret] else []) :
      ∃ label ∈ keyLogLabels, ∃ secret, line = keyLogLine label cr secret := by
    split at h
    · exact ⟨label, hl, secret, List.mem_singleton.mp h⟩
    · cases h
  rcases h with (((h | h) | h) | h) | h <;> exact hline (by simp [keyLogLabels]) h

theorem keyLogTexts_form {s : TlsSecrets} (hs : s.clientRandomIsSet = true) {line : List Char}
    (h : line ∈ keyLogTexts s) : HasKeyLogForm s line := by
  obtain ⟨fragments, hf, rfl⟩ := List.mem_map.mp h
  obtain ⟨label, hl, secret, rfl⟩ := mem_keyLogLines hf
  refine ⟨label, hl, secret, ?_⟩
  rw [if_pos hs]
  simp [fragmentsText, keyLogLine]

section

variable {ω : Type}

/-- The secrets that a Connected handler on `x` writes. -/
def recordedBy (x : ConnectionInnerExclusive ω) (secrets : Nat → TlsSecrets) : List TlsSecrets :=
  match x.tlsSecrets, x.sslkeylogFile with
  | some box, some _ => [secrets box]
  | _, _ => []

/-- The secrets that the handlers of a run write. -/
def recorded : List (KeyLogStep ω) → List TlsSecrets
  | [] => []
  | e :: tr =>
    match e.label with
    | .connected i secrets =>
      match e.pre.conns[i]? with
      | some c => recorded tr ++ recordedBy c.inner secrets
      | none => recorded tr
    | _ => recorded tr

/-- The fragments that calls append. -/
def appends (calls : List ConnectionCall) : List String :=
  calls.filterMap fun
    | .append _ fragment => some fragment
    | _ => none

/-- The fragments a run has appended. -/
def appended : List (KeyLogStep ω) → List String
  | [] => []
  | e :: tr => appended tr ++ appends e.out

/-- The text appended is a row of whole lines, and then the front of one that is not finished.
Every line of every connection is there once, or is not finished; each has the form of a line. -/
def WholeLines (tr : List (KeyLogStep ω)) (s : KeyLogSys ω) : Prop :=
  ∃ lines left front, s.file.text = (origin tr s).file.text ++ (lines.flatten ++ front) ∧
    (lines ++ left).Perm ((recorded tr).flatMap keyLogTexts) ∧
    (∀ line ∈ lines, ∃ secrets ∈ recorded tr, HasKeyLogForm secrets line) ∧
    (front = [] ∨ ∃ line ∈ left, front <+: line) ∧
    ((∀ c ∈ s.conns, c.writer.Done) → left = [])

/-- A handler begins a line while another one is inside a line. -/
def BeginsInside (s : KeyLogSys ω) (l : KeyLogLabel) : Prop :=
  ∃ i c, l = .write i ∧ s.conns[i]? = some c ∧ c.writer.BeginsLine ∧
    ∃ other ∈ s.conns, other.writer.rest ≠ []

variable {tr : List (KeyLogStep ω)} {s : KeyLogSys ω}

/-- A handler that has sought the end finds the position there. -/
def KeyLogSys.AtEnd (s : KeyLogSys ω) : Prop :=
  ∀ c ∈ s.conns, c.writer.seek = false → ¬ c.writer.Done → s.file.position = s.file.text.length

theorem KeyLogWriter.toWriter_ofConnected (x : ConnectionInnerExclusive ω)
    (secrets : Nat → TlsSecrets) :
    (ofConnected x secrets).toWriter = ⟨[], (recordedBy x secrets).flatMap keyLogLines⟩ := by
  unfold ofConnected recordedBy
  cases x.tlsSecrets <;> cases x.sslkeylogFile <;> simp

theorem KeyLogWriter.done_or_seek_ofConnected (x : ConnectionInnerExclusive ω)
    (secrets : Nat → TlsSecrets) :
    (ofConnected x secrets).Done ∨ (ofConnected x secrets).seek = true := by
  unfold ofConnected
  cases x.tlsSecrets <;> cases x.sslkeylogFile
  case some.some => exact .inr rfl
  all_goals exact .inl ⟨rfl, rfl, rfl⟩

theorem KeyLogSys.next_connected (s : KeyLogSys ω) (i : Nat) (secrets : Nat → TlsSecrets) :
    (s.conns[i]? = none ∧ s.next (.connected i secrets) = (s, [])) ∨
      ∃ c, s.conns[i]? = some c ∧ s.next (.connected i secrets) =
        ({ s with
            conns := s.conns.set i
              { inner := (Connection.handleEventConnected c.inner secrets).state
                writer := .ofConnected c.inner secrets } }, []) := by
  cases hc : s.conns[i]? with
  | none =>
    left
    simp only [next, hc, true_and]
  | some c =>
    right
    refine ⟨c, rfl, ?_⟩
    simp only [next, hc]

theorem KeyLogSys.next_write (s : KeyLogSys ω) (i : Nat) :
    (s.next (.write i) = (s, []) ∧ ∀ c, s.conns[i]? = some c → c.writer.next = none) ∨
      ∃ c call writer, s.conns[i]? = some c ∧ c.writer.next = some (call, writer) ∧
        s.next (.write i) =
          ({ s with
              conns := s.conns.set i { c with writer := writer }
              file := s.file.perform call }, [call]) := by
  cases hc : s.conns[i]? with
  | none =>
    left
    exact ⟨by simp only [next, hc], nofun⟩
  | some c =>
    cases hn : c.writer.next with
    | none =>
      left
      refine ⟨by simp only [next, hc, hn], fun c' hc' => ?_⟩
      obtain rfl := Option.some.inj hc'
      exact hn
    | some r =>
      right
      refine ⟨c, r.1, r.2, rfl, hn, ?_⟩
      simp only [next, hc, hn]

theorem KeyLogSys.AtEnd.perform (h : s.AtEnd) {c : KeyLogConn ω} (hc : c ∈ s.conns)
    {call : ConnectionCall} {writer : KeyLogWriter} (hn : c.writer.next = some (call, writer)) :
    (s.file.perform call).position = (s.file.perform call).text.length ∧
      (s.file.perform call).text = s.file.text ++ fragmentsText (appends [call]) := by
  rcases KeyLogWriter.next_cases hn with ⟨-, rfl, -⟩ | ⟨hs, -, -, fragment, rfl, he⟩
  · exact ⟨rfl, (List.append_nil _).symm⟩
  · have hpos : s.file.position = s.file.text.length := by
      apply h c hc hs
      rintro ⟨-, hrest, hrecords⟩
      obtain ⟨_, _, hbegin⟩ := he.begins hrest
      cases hrecords.symm.trans hbegin
    have happend : s.file.perform (.append c.writer.file fragment) =
        { s.file with text := s.file.text ++ fragment.toList }.seekEnd :=
      SharedFile.write_at_end hpos fragment.toList
    rw [happend]
    refine ⟨rfl, ?_⟩
    show s.file.text ++ fragment.toList = s.file.text ++ ([fragment].flatMap String.toList)
    rw [List.flatMap_singleton]

/-- The text of a run is what it started with and what its handlers have appended. -/
theorem text_of_run (h : (keyLogSystem ω).Run tr s) :
    s.file.text = (origin tr s).file.text ++ fragmentsText (appended tr) ∧ s.AtEnd := by
  refine h.invariant (I := fun tr s =>
    s.file.text = (origin tr s).file.text ++ fragmentsText (appended tr) ∧ s.AtEnd) ?_ ?_
  · intro s hs
    refine ⟨(List.append_nil _).symm, fun c hc => ?_⟩
    rw [show s.conns = [] from hs] at hc
    cases hc
  · rintro tr s l - hok ⟨htext, hend⟩
    show (s.next l).1.file.text = (origin tr s).file.text ++
      fragmentsText (appended tr ++ appends (s.next l).2) ∧ (s.next l).1.AtEnd
    have hquiet : s.file.text =
        (origin tr s).file.text ++ fragmentsText (appended tr ++ appends []) := by
      rw [appends, List.filterMap_nil, List.append_nil]
      exact htext
    cases l with
    | newConnection connection clone box setParam setConfiguration =>
      refine ⟨hquiet, fun c hc hs hd => ?_⟩
      rcases List.mem_append.mp hc with hc | hc
      · exact hend c hc hs hd
      · obtain ⟨a, -, rfl⟩ := List.mem_map.mp hc
        exact absurd ⟨rfl, rfl, rfl⟩ hd
    | connected i secrets =>
      rcases s.next_connected i secrets with ⟨-, hnext⟩ | ⟨c, -, hnext⟩
      · rw [hnext]
        exact ⟨hquiet, hend⟩
      · rw [hnext]
        refine ⟨hquiet, fun c' hc' hs hd => ?_⟩
        rcases List.mem_or_eq_of_mem_set hc' with hc' | rfl
        · exact hend c' hc' hs hd
        · rcases KeyLogWriter.done_or_seek_ofConnected c.inner secrets with hdone | hseek
          · exact absurd hdone hd
          · cases hseek.symm.trans hs
    | write i =>
      rcases s.next_write i with ⟨hnext, -⟩ | ⟨c, call, writer, hc, hn, hnext⟩
      · rw [hnext]
        exact ⟨hquiet, hend⟩
      · rw [hnext]
        obtain ⟨hpos, hadd⟩ := hend.perform (List.mem_of_getElem? hc) hn
        refine ⟨?_, fun _ _ _ _ => hpos⟩
        show (s.file.perform call).text = _
        rw [hadd, htext, List.append_assoc, fragmentsText, fragmentsText, fragmentsText,
          List.flatMap_append]

/-- **Where no line is begun inside another one**, the fragments appended are whole lines and then
the front of one. -/
theorem whole_of_run (h : (keyLogSystem ω).Run tr s) :
    (∀ e ∈ tr, ¬ BeginsInside e.pre e.label) →
      Whole s.writers (appended tr) ((recorded tr).flatMap keyLogLines) := by
  refine h.invariant (I := fun tr s => (∀ e ∈ tr, ¬ BeginsInside e.pre e.label) →
    Whole s.writers (appended tr) ((recorded tr).flatMap keyLogLines)) ?_ ?_
  · intro s hs _
    rw [KeyLogSys.writers, show s.conns = [] from hs]
    exact ⟨[], [], [], rfl, .refl _, .idle nofun⟩
  · intro tr s l _ hok ih hc
    obtain ⟨hstep, htr⟩ := List.forall_mem_cons.mp hc
    have hw := ih htr
    show Whole (s.next l).1.writers (appended tr ++ appends (s.next l).2) _
    have hquiet : appended tr ++ appends [] = appended tr := List.append_nil _
    cases l with
    | newConnection connection clone box setParam setConfiguration =>
      show Whole ((s.conns ++ _).map _) (appended tr ++ appends []) ((recorded tr).flatMap _)
      rw [hquiet, List.map_append]
      apply hw.join
      intro w hw
      obtain ⟨c, hc, rfl⟩ := List.mem_map.mp hw
      obtain ⟨a, -, rfl⟩ := List.mem_map.mp hc
      rfl
    | connected i secrets =>
      rcases s.next_connected i secrets with ⟨hc, hnext⟩ | ⟨c, hc, hnext⟩
      · rw [hnext, hquiet]
        simp only [recorded, System.take_label, System.take_pre, hc]
        exact hw
      · rw [hnext, hquiet]
        simp only [recorded, System.take_label, System.take_pre, hc]
        rw [List.flatMap_append]
        have hdone : s.writers[i]? = some ⟨[], []⟩ := by
          obtain ⟨⟨-, hrest, hrecords⟩, -⟩ := hok c hc
          rw [KeyLogSys.writers, List.getElem?_map, hc, ← hrest, ← hrecords]
          rfl
        have hset := hw.give hdone ((recordedBy c.inner secrets).flatMap keyLogLines)
        rw [← KeyLogWriter.toWriter_ofConnected] at hset
        rw [KeyLogSys.writers, List.map_set]
        exact hset
    | write i =>
      rcases s.next_write i with ⟨hnext, -⟩ | ⟨c, call, writer, hc, hn, hnext⟩
      · rw [hnext, hquiet]
        exact hw
      · rw [hnext]
        have hi : s.writers[i]? = some c.writer.toWriter := by
          rw [KeyLogSys.writers, List.getElem?_map, hc]
          rfl
        rw [KeyLogSys.writers, List.map_set]
        show Whole (s.writers.set i writer.toWriter) _ ((recorded tr).flatMap _)
        rcases KeyLogWriter.next_cases hn with ⟨-, rfl, rfl⟩ | ⟨hs, -, -, fragment, rfl, he⟩
        · rw [show appended tr ++ appends [.seekEnd c.writer.file] = appended tr from hquiet]
          obtain ⟨hlt, heq⟩ := List.getElem?_eq_some_iff.mp hi
          have hself : s.writers.set i c.writer.toWriter = s.writers := by
            rw [← heq, List.set_getElem_self]
          show Whole (s.writers.set i c.writer.toWriter) _ _
          rw [hself]
          exact hw
        · refine hw.emit hi he fun hrest v hv => ?_
          by_contra hv'
          obtain ⟨other, hother, rfl⟩ := List.mem_map.mp hv
          exact hstep ⟨i, c, rfl, hc, ⟨hs, hrest, _, he.begins hrest⟩, other, hother, hv'⟩

/-! ## Lines in a text -/

/-- What has been read of the line that is under way: no space, a space, or a label behind a
space. -/
inductive LineScan where
  | begun
  | spaced
  | broken
  deriving DecidableEq

def LineScan.next : LineScan → Char → LineScan
  | .broken, _ => .broken
  | q, c =>
    if c = '\n' then .begun
    else if q = .spaced ∧ c = '_' then .broken
    else if c = ' ' then .spaced
    else q

def LineScan.read (q : LineScan) (text : List Char) : LineScan := text.foldl LineScan.next q

namespace LineScan

variable {q : LineScan} {text text' : List Char}

@[simp] theorem read_append : q.read (text ++ text') = (q.read text).read text' :=
  List.foldl_append

theorem read_broken (text : List Char) : broken.read text = broken := by
  induction text with
  | nil => rfl
  | cons c text ih => exact ih

/-- Neither a newline nor a character of a label. -/
def Plain (text : List Char) : Prop := ∀ c ∈ text, c ≠ '\n' ∧ c ≠ '_'

theorem read_plain (h : Plain text) : spaced.read text = spaced := by
  induction text with
  | nil => rfl
  | cons c text ih =>
    obtain ⟨⟨hn, hu⟩, htl⟩ := List.forall_mem_cons.mp h
    have hc : spaced.next c = spaced := by simp [next, hn, hu]
    show (spaced.next c).read text = spaced
    rw [hc]
    exact ih htl

theorem plain_hexEncode (bytes : Bytes) : Plain (hexEncode bytes).toList := by
  have hdigit (n : Nat) : hexDigit n ≠ '\n' ∧ hexDigit n ≠ '_' := by
    unfold hexDigit
    by_cases hn : n < 16
    · have : n ∈ List.range 16 := List.mem_range.mpr hn
      revert n
      decide
    · rw [List.getD_eq_getElem?_getD, List.getElem?_eq_none (by simp; omega)]
      decide
  intro c hc
  rw [hexEncode, String.toList_ofList, List.mem_flatMap] at hc
  obtain ⟨b, -, hb⟩ := hc
  simp only [List.mem_cons, List.not_mem_nil, or_false] at hb
  rcases hb with rfl | rfl <;> exact hdigit _

/-- A label ends in a space, and contains a character that nothing behind a space contains. -/
theorem read_label {label : String} (h : label ∈ keyLogLabels) :
    begun.read (label ++ " ").toList = spaced ∧ spaced.read (label ++ " ").toList = broken := by
  revert label
  decide

theorem plain_fragments {fragments : List String} (h : ∀ f ∈ fragments, Plain f.toList) :
    Plain (fragmentsText fragments) := by
  intro c hc
  obtain ⟨f, hf, hcf⟩ := List.mem_flatMap.mp hc
  exact h f hf c hcf

theorem read_front {s : TlsSecrets} {front rest : List String} (h : front ++ rest ∈ keyLogLines s)
    (hf : front ≠ []) (hr : rest ≠ []) : begun.read (fragmentsText front) = spaced := by
  obtain ⟨label, hl, secret, heq⟩ := mem_keyLogLines h
  obtain ⟨f, mid, rfl⟩ := List.exists_cons_of_ne_nil hf
  generalize hcr : (if s.clientRandomIsSet then hexEncode s.clientRandom else "") = cr at heq
  have hplain : Plain cr.toList := by
    rw [← hcr]
    split
    · exact plain_hexEncode _
    · exact nofun
  obtain ⟨rfl, hmid⟩ := List.cons.inj heq
  replace hmid : mid ++ rest = [cr, " ", hexEncode secret] ++ ["\n"] := hmid
  have hpre : mid <+: [cr, " ", hexEncode secret] := by
    rcases List.prefix_concat_iff.mp ⟨rest, hmid⟩ with hall | hpre
    · rw [← hall] at hmid
      exact absurd (List.append_right_eq_self.mp hmid) hr
    · exact hpre
  have hmid : Plain (fragmentsText mid) := by
    apply plain_fragments
    intro f hf
    have := hpre.subset hf
    simp only [List.mem_cons, List.not_mem_nil, or_false] at this
    rcases this with rfl | rfl | rfl
    · exact hplain
    · intro c hc
      obtain rfl : c = ' ' := by simpa using hc
      decide
    · exact plain_hexEncode _
  show begun.read ((label ++ " ").toList ++ fragmentsText mid) = spaced
  rw [read_append, (read_label hl).1, read_plain hmid]

theorem read_line {s : TlsSecrets} {line : List String} (h : line ∈ keyLogLines s) :
    begun.read (fragmentsText line) = begun := by
  obtain ⟨label, hl, secret, rfl⟩ := mem_keyLogLines h
  generalize (if s.clientRandomIsSet then hexEncode s.clientRandom else "") = cr at h ⊢
  have hfront := @read_front s [label ++ " ", cr, " ", hexEncode secret] ["\n"] h
    (List.cons_ne_nil _ _) (List.cons_ne_nil _ _)
  show begun.read (fragmentsText ([label ++ " ", cr, " ", hexEncode secret] ++ ["\n"])) = begun
  rw [fragmentsText] at hfront ⊢
  rw [List.flatMap_append, read_append, hfront]
  rfl

theorem read_lines {lines : List (List Char)} (h : ∀ line ∈ lines, begun.read line = begun) :
    begun.read lines.flatten = begun := by
  induction lines with
  | nil => rfl
  | cons line lines ih =>
    obtain ⟨hline, hlines⟩ := List.forall_mem_cons.mp h
    rw [List.flatten_cons, read_append, hline, ih hlines]

theorem read_prefix {front line : List Char} (hp : front <+: line) (h : begun.read line = begun) :
    begun.read front ≠ broken := by
  obtain ⟨rest, rfl⟩ := hp
  intro hb
  rw [read_append, hb, read_broken] at h
  cases h

end LineScan

/-! ## Every run -/

theorem fragmentsText_append (l l' : List String) :
    fragmentsText (l ++ l') = fragmentsText l ++ fragmentsText l' := List.flatMap_append

theorem fragmentsText_flatten (lines : List (List String)) :
    fragmentsText lines.flatten = (lines.map fragmentsText).flatten := by
  induction lines with
  | nil => rfl
  | cons line lines ih =>
    rw [List.flatten_cons, fragmentsText_append, ih, List.map_cons, List.flatten_cons]

theorem broken_of_begin {log : List String} {secrets : List TlsSecrets}
    (h : Whole s.writers log (secrets.flatMap keyLogLines)) {c other : KeyLogConn ω}
    (hc : c ∈ s.conns) {fragment : String} {writer : KeyLogWriter}
    (he : c.writer.toWriter.Emits fragment writer.toWriter) (hrest : c.writer.rest = [])
    (hother : other ∈ s.conns) (hin : other.writer.rest ≠ []) :
    LineScan.begun.read (fragmentsText (log ++ [fragment])) = .broken := by
  obtain ⟨written, front, left, rfl, hall, hleft⟩ := h
  have hmem {line : List String} (hl : line ∈ written ++ left) :
      ∃ s ∈ secrets, line ∈ keyLogLines s := List.mem_flatMap.mp (hall.mem_iff.mp hl)
  cases hleft with
  | idle hnone => exact absurd (hnone _ (List.mem_map.mpr ⟨other, hother, rfl⟩)) hin
  | inside hf hi hw honly =>
    have hlines : LineScan.begun.read (written.map fragmentsText).flatten = .begun := by
      apply LineScan.read_lines
      intro text ht
      obtain ⟨line, hl, rfl⟩ := List.mem_map.mp ht
      obtain ⟨s, -, hs⟩ := hmem (List.mem_append_left _ hl)
      exact LineScan.read_line hs
    obtain ⟨s', -, hs'⟩ := hmem (List.mem_append_right _ List.mem_cons_self)
    -- what is begun is a label
    obtain ⟨rest, records, hrecords⟩ := he.begins hrest
    have hrecord : fragment :: rest ∈ c.writer.records := by
      rw [hrecords]
      exact List.mem_cons_self
    obtain ⟨s'', -, hs''⟩ := hmem (List.mem_append_right _ (List.mem_cons_of_mem _
      (List.mem_flatMap.mpr ⟨_, List.mem_map.mpr ⟨c, hc, rfl⟩, hrecord⟩)))
    obtain ⟨label, hlabel, secret, heq⟩ := mem_keyLogLines hs''
    obtain ⟨rfl, -⟩ := List.cons.inj heq
    rw [fragmentsText_append, fragmentsText_append, fragmentsText_flatten, LineScan.read_append,
      LineScan.read_append, hlines, LineScan.read_front hs' hf hw]
    show LineScan.spaced.read ((label ++ " ").toList ++ []) = .broken
    rw [List.append_nil, (LineScan.read_label hlabel).2]

/-- The text in which a line was begun inside another one does not mend. -/
theorem broken_of_run (h : (keyLogSystem ω).Run tr s) :
    (∃ e ∈ tr, BeginsInside e.pre e.label) →
      LineScan.begun.read (fragmentsText (appended tr)) = .broken := by
  refine h.invariant (I := fun tr s => (∃ e ∈ tr, BeginsInside e.pre e.label) →
    LineScan.begun.read (fragmentsText (appended tr)) = .broken) ?_ ?_
  · rintro s - ⟨e, he, -⟩
    cases he
  · rintro tr s l hr - ih ⟨e, he, hbad⟩
    by_cases hv : ∃ e ∈ tr, BeginsInside e.pre e.label
    · rw [appended, fragmentsText_append, LineScan.read_append, ih hv]
      exact LineScan.read_broken _
    · have hl : BeginsInside s l := by
        rcases List.mem_cons.mp he with rfl | he
        · exact hbad
        · exact absurd ⟨e, he, hbad⟩ hv
      have hw := whole_of_run hr fun e he hb => hv ⟨e, he, hb⟩
      obtain ⟨i, c, rfl, hc, hbegin, other, hother, hin⟩ := hl
      show LineScan.begun.read (fragmentsText (appended tr ++ appends (s.next (.write i)).2)) = _
      rcases s.next_write i with ⟨-, hnone⟩ | ⟨c', call, writer, hc', hn, hnext⟩
      · exact absurd (hnone c hc) hbegin.next_some
      · obtain rfl := Option.some.inj (hc'.symm.trans hc)
        rw [hnext]
        rcases KeyLogWriter.next_cases hn with ⟨hs', -, -⟩ | ⟨-, -, -, fragment, rfl, he⟩
        · cases hs'.symm.trans hbegin.1
        · exact broken_of_begin hw (List.mem_of_getElem? hc) he hbegin.2.1 hother hin

theorem recorded_clientRandom (h : (keyLogSystem ω).Run tr s) :
    ∀ secrets ∈ recorded tr, secrets.clientRandomIsSet = true := by
  refine h.invariant (I := fun tr _ => ∀ secrets ∈ recorded tr, secrets.clientRandomIsSet = true)
    nofun ?_
  intro tr s l _ hok ih
  cases l with
  | newConnection | write => exact ih
  | connected i secrets =>
    unfold recorded
    simp only [System.take_label, System.take_pre]
    cases hc : s.conns[i]? with
    | none => exact ih
    | some c =>
      intro secrets' hs
      rcases List.mem_append.mp hs with hs | hs
      · exact ih secrets' hs
      · have hset := (hok c hc).2
        unfold recordedBy at hs
        split at hs
        · next hbox _ =>
          obtain rfl := List.mem_singleton.mp hs
          exact hset _ hbox
        · cases hs

theorem wholeLines_of_whole (h : (keyLogSystem ω).Run tr s)
    (hw : Whole s.writers (appended tr) ((recorded tr).flatMap keyLogLines)) : WholeLines tr s := by
  obtain ⟨htext, -⟩ := text_of_run h
  obtain ⟨written, front, left, hlog, hall, hleft⟩ := hw
  have hperm : (written.map fragmentsText ++ left.map fragmentsText).Perm
      ((recorded tr).flatMap keyLogTexts) := by
    have := hall.map fragmentsText
    rw [List.map_append, List.map_flatMap] at this
    exact this
  refine ⟨written.map fragmentsText, left.map fragmentsText, fragmentsText front, ?_, hperm, ?_, ?_,
    fun hdone => ?_⟩
  · rw [htext, hlog, fragmentsText_append, fragmentsText_flatten]
  · intro line hl
    obtain ⟨secrets, hs, hl⟩ := List.mem_flatMap.mp (hperm.mem_iff.mp (List.mem_append_left _ hl))
    exact ⟨secrets, hs, keyLogTexts_form (recorded_clientRandom h secrets hs) hl⟩
  · cases hleft with
    | idle => exact .inl rfl
    | inside hf hi hw honly =>
      refine .inr ⟨_, List.mem_cons_self, ?_⟩
      rw [fragmentsText_append]
      exact List.prefix_append _ _
  · cases hleft with
    | idle =>
      apply List.map_eq_nil_iff.mpr
      apply List.flatMap_eq_nil_iff.mpr
      intro w hw
      obtain ⟨c, hc, rfl⟩ := List.mem_map.mp hw
      exact (hdone c hc).2.2
    | inside hf hi hw honly =>
      obtain ⟨c, hc, rfl⟩ := List.mem_map.mp (List.mem_of_getElem? hi)
      exact absurd (hdone c hc).2.1 hw

theorem not_broken_of_wholeLines (h : (keyLogSystem ω).Run tr s) (hw : WholeLines tr s) :
    LineScan.begun.read (fragmentsText (appended tr)) ≠ .broken := by
  obtain ⟨htext, -⟩ := text_of_run h
  obtain ⟨lines, left, front, hlines, hperm, -, hfront, -⟩ := hw
  have heq : fragmentsText (appended tr) = lines.flatten ++ front :=
    List.append_cancel_left (htext.symm.trans hlines)
  have hline {line : List Char} (hl : line ∈ lines ++ left) :
      LineScan.begun.read line = .begun := by
    obtain ⟨secrets, -, hl⟩ := List.mem_flatMap.mp (hperm.mem_iff.mp hl)
    obtain ⟨fragments, hf, rfl⟩ := List.mem_map.mp hl
    exact LineScan.read_line hf
  rw [heq, LineScan.read_append, LineScan.read_lines fun l hl => hline (List.mem_append_left _ hl)]
  rcases hfront with rfl | ⟨line, hl, hpre⟩
  · exact nofun
  · exact LineScan.read_prefix hpre (hline (List.mem_append_right _ hl))

/-- **Key-log lines are written whole, exactly if** no handler begins a line while another one is
inside a line. -/
theorem key_log_lines_whole_iff (h : (keyLogSystem ω).Run tr s) :
    WholeLines tr s ↔ ∀ e ∈ tr, ¬ BeginsInside e.pre e.label := by
  constructor
  · intro hw e he hb
    exact not_broken_of_wholeLines h hw (broken_of_run h ⟨e, he, hb⟩)
  · intro hc
    exact wholeLines_of_whole h (whole_of_run h hc)

end

/-- Secrets of which only `SERVER_TRAFFIC_SECRET_0` is set. -/
def serverSecrets (random : UInt8) : TlsSecrets :=
  { (default : TlsSecrets) with
    secretLength := 32
    clientRandomIsSet := true
    serverTrafficSecret0IsSet := true
    clientRandom := List.replicate 32 random
    serverTrafficSecret0 := List.replicate 64 random }

/-- The handlers of two connections have the locks, and have made no call. -/
def twoConnected : KeyLogSys Nat where
  listener :=
    { sslkeylogFile := some 6
      newConnections := [⟨1, some 10, some 7⟩, ⟨2, some 20, some 8⟩] }
  conns := [
    { inner := .new .connected (some 10) none
      writer := { records := keyLogLines (serverSecrets 1), file := 7, seek := true } },
    { inner := .new .connected (some 20) none
      writer := { records := keyLogLines (serverSecrets 2), file := 8, seek := true } }]
  file := {}

theorem run_twoConnected : ∃ tr, (keyLogSystem Nat).Run tr twoConnected ∧
    recorded tr = [serverSecrets 1, serverSecrets 2] ∧ appended tr = [] ∧
    ∀ e ∈ tr, ∀ i, e.label ≠ .write i := by
  have h0 := System.Run.start (S := keyLogSystem Nat)
    (show (keyLogSystem Nat).init { listener := { sslkeylogFile := some 6 }, file := {} } from rfl)
  have h1 := h0.step (KeyLogLabel.newConnection 1 (some 7) 10 (.ok ()) (.ok ())) trivial
  have h2 := h1.step (KeyLogLabel.newConnection 2 (some 8) 20 (.ok ()) (.ok ())) trivial
  have h3 := h2.step (KeyLogLabel.connected 0 fun _ => serverSecrets 1) (by
    rintro c ⟨⟩
    exact ⟨⟨rfl, rfl, rfl⟩, fun _ _ => rfl⟩)
  have h4 := h3.step (KeyLogLabel.connected 1 fun _ => serverSecrets 2) (by
    rintro c ⟨⟩
    exact ⟨⟨rfl, rfl, rfl⟩, fun _ _ => rfl⟩)
  refine ⟨_, h4, rfl, rfl, ?_⟩
  simp only [List.forall_mem_cons]
  refine ⟨?_, ?_, ?_, ?_, fun e he => absurd he List.not_mem_nil⟩ <;> exact fun i h => by cases h

theorem run_write {tr : List (KeyLogStep Nat)} {s : KeyLogSys Nat} (i : Nat)
    (h : (keyLogSystem Nat).Run tr s) :
    (keyLogSystem Nat).Run ((keyLogSystem Nat).take s (.write i) :: tr) (s.next (.write i)).1 :=
  h.step (KeyLogLabel.write i) trivial

theorem not_beginsInside {s : KeyLogSys Nat} {i : Nat}
    (h : ∀ j c, s.conns[j]? = some c → j ≠ i → c.writer.rest = []) :
    ¬ BeginsInside s (.write i) := by
  rintro ⟨i', c, hi, hc, hbegin, other, hother, hin⟩
  obtain rfl : i = i' := by injection hi
  obtain ⟨j, hj⟩ := List.mem_iff_getElem?.mp hother
  by_cases hji : j = i
  · subst hji
    obtain rfl := Option.some.inj (hj.symm.trans hc)
    exact hin hbegin.2.1
  · exact hin (h j other hj hji)

/-- Both handlers seek the end, and then they write one after the other. -/
theorem key_log_lines_whole_in_turn :
    ∃ (tr : List (KeyLogStep Nat)) (s : KeyLogSys Nat), (keyLogSystem Nat).Run tr s ∧
      recorded tr = [serverSecrets 1, serverSecrets 2] ∧ (∀ c ∈ s.conns, c.writer.Done) ∧
      WholeLines tr s := by
  obtain ⟨tr, h4, hrec, -, hquiet⟩ := run_twoConnected
  have h6 := run_write 1 (run_write 0 h4)
  have h11 := run_write 1 (run_write 1 (run_write 1 (run_write 1 (run_write 1 h6))))
  have h16 := run_write 0 (run_write 0 (run_write 0 (run_write 0 (run_write 0 h11))))
  refine ⟨_, _, h16, hrec, ?_, (key_log_lines_whole_iff h16).mpr ?_⟩
  · show ∀ c ∈ [_, _], KeyLogWriter.Done _
    simp only [List.forall_mem_cons]
    exact ⟨⟨rfl, rfl, rfl⟩, ⟨rfl, rfl, rfl⟩, fun c hc => absurd hc List.not_mem_nil⟩
  · simp only [List.forall_mem_cons, System.take_pre, System.take_label]
    refine ⟨?_, ?_, ?_, ?_, ?_, ?_, ?_, ?_, ?_, ?_, ?_, ?_, fun e he hb => ?_⟩
    case refine_13 =>
      obtain ⟨i, c, hi, -⟩ := hb
      exact hquiet e he i hi
    all_goals
      refine not_beginsInside ?_
      rintro (_ | _ | j) c ⟨⟩ hj
      all_goals first | rfl | exact absurd rfl hj

/-- Two labels come first, and then the rest of either line. -/
theorem key_log_lines_interleaved :
    ∃ (tr : List (KeyLogStep Nat)) (s : KeyLogSys Nat), (keyLogSystem Nat).Run tr s ∧
      recorded tr = [serverSecrets 1, serverSecrets 2] ∧ (∀ c ∈ s.conns, c.writer.Done) ∧
      appended tr =
        ["SERVER_TRAFFIC_SECRET_0 ", "SERVER_TRAFFIC_SECRET_0 ",
          hexEncode (List.replicate 32 2), " ", hexEncode (List.replicate 32 2), "\n",
          hexEncode (List.replicate 32 1), " ", hexEncode (List.replicate 32 1), "\n"] ∧
      ¬ WholeLines tr s := by
  obtain ⟨tr, h4, hrec, happ, -⟩ := run_twoConnected
  have h7 := run_write 1 (run_write 0 (run_write 0 h4))
  have h8 := run_write 1 h7
  have h12 := run_write 1 (run_write 1 (run_write 1 (run_write 1 h8)))
  have h16 := run_write 0 (run_write 0 (run_write 0 (run_write 0 h12)))
  refine ⟨_, _, h16, hrec, ?_, ?_, fun hw => ?_⟩
  · show ∀ c ∈ [_, _], KeyLogWriter.Done _
    simp only [List.forall_mem_cons]
    exact ⟨⟨rfl, rfl, rfl⟩, ⟨rfl, rfl, rfl⟩, fun c hc => absurd hc List.not_mem_nil⟩
  · simp only [appended, happ]
    rfl
  · -- the second label is written while the first handler is inside its line
    have hbad : BeginsInside (((twoConnected.next (.write 0)).1.next (.write 0)).1.next
        (.write 1)).1 (.write 1) :=
      ⟨1, _, rfl, rfl, ⟨rfl, rfl, _, _, _, rfl⟩, _, List.mem_of_getElem? (i := 0) rfl,
        List.cons_ne_nil _ _⟩
    exact not_broken_of_wholeLines h16 hw (broken_of_run h16
      ⟨_, List.mem_append_right [_, _, _, _, _, _, _, _] List.mem_cons_self, hbad⟩)

end MsquicAsync
