import MsquicAsync.Connection.KeyLogFile

/-!
# Reading the key log back

What the lines are for: a reader of the file takes its complete lines apart, and
gets back labels, client randoms and secrets (`parseKeyLog`). `keyLogEntries` are
the entries that a connection's secrets stand for. Where the lines are whole,
the file has the entries of every connection that has finished, next to those
that it had before.
-/

namespace MsquicAsync

open Runs Records

/-! ## Hex -/

def hexValue (c : Char) : Option Nat := "0123456789abcdef".toList.idxOf? c

def hexDecode : List Char → Option Bytes
  | [] => some []
  | hi :: lo :: rest =>
    match hexValue hi, hexValue lo, hexDecode rest with
    | some hi, some lo, some bytes => some (UInt8.ofNat (16 * hi + lo) :: bytes)
    | _, _, _ => none
  | [_] => none

theorem hexValue_hexDigit {n : Nat} (h : n < 16) : hexValue (hexDigit n) = some n := by
  have hn : n ∈ List.range 16 := List.mem_range.mpr h
  revert n
  decide

theorem hexDecode_hexEncode (bytes : Bytes) : hexDecode (hexEncode bytes).toList = some bytes := by
  rw [hexEncode, String.toList_ofList]
  induction bytes with
  | nil => rfl
  | cons b bytes ih =>
    have hb : b.toNat < 256 := b.toNat_lt
    rw [List.flatMap_cons]
    simp only [List.cons_append, List.nil_append, hexDecode, ih]
    rw [hexValue_hexDigit (by omega), hexValue_hexDigit (by omega)]
    simp only [Nat.div_add_mod, UInt8.ofNat_toNat]

theorem hexDigit_ne (n : Nat) : hexDigit n ≠ ' ' ∧ hexDigit n ≠ '\n' := by
  unfold hexDigit
  by_cases hn : n < 16
  · have : n ∈ List.range 16 := List.mem_range.mpr hn
    revert n
    decide
  · rw [List.getD_eq_getElem?_getD, List.getElem?_eq_none (by simp; omega)]
    decide

theorem not_mem_hexEncode (bytes : Bytes) :
    ' ' ∉ (hexEncode bytes).toList ∧ '\n' ∉ (hexEncode bytes).toList := by
  rw [hexEncode, String.toList_ofList]
  simp only [List.mem_flatMap, List.mem_cons, List.not_mem_nil, or_false, not_exists, not_and,
    not_or]
  refine ⟨fun b _ => ⟨?_, ?_⟩, fun b _ => ⟨?_, ?_⟩⟩
  · exact (hexDigit_ne _).1.symm
  · exact (hexDigit_ne _).1.symm
  · exact (hexDigit_ne _).2.symm
  · exact (hexDigit_ne _).2.symm

/-! ## Lines -/

/-- The lines of a text that end in a newline. -/
def completeLines (text : List Char) : List (List Char) := (text.splitOn '\n').dropLast

/-- The text is empty or ends in a newline. -/
def EndsLine (text : List Char) : Prop := text = [] ∨ ∃ front, text = front ++ ['\n']

theorem completeLines_append (front text : List Char) :
    completeLines (front ++ '\n' :: text) = front.splitOn '\n' ++ completeLines text := by
  unfold completeLines
  rw [List.splitOn_append_cons_self, List.dropLast_append_of_ne_nil (List.splitOn_ne_nil _ _)]

theorem completeLines_unfinished {text : List Char} (h : '\n' ∉ text) : completeLines text = [] := by
  rw [completeLines, List.splitOn_eq_singleton h]
  rfl

theorem EndsLine.completeLines_append {text : List Char} (h : EndsLine text) (more : List Char) :
    completeLines (text ++ more) = completeLines text ++ completeLines more := by
  rcases h with rfl | ⟨front, rfl⟩
  · rfl
  · rw [List.append_assoc, List.singleton_append, MsquicAsync.completeLines_append,
      MsquicAsync.completeLines_append, List.append_assoc]
    rfl

theorem completeLines_lines {lines : List (List Char)} (h : ∀ line ∈ lines, '\n' ∉ line)
    (text : List Char) :
    completeLines ((lines.flatMap fun line => line ++ ['\n']) ++ text) =
      lines ++ completeLines text := by
  induction lines with
  | nil => rfl
  | cons line lines ih =>
    obtain ⟨hline, hlines⟩ := List.forall_mem_cons.mp h
    rw [List.flatMap_cons, List.append_assoc, List.append_assoc, List.singleton_append,
      completeLines_append, List.splitOn_eq_singleton hline, ih hlines]
    rfl

/-! ## Entries -/

structure KeyLogEntry where
  label : String
  clientRandom : Bytes
  secret : Bytes
  deriving DecidableEq, Repr

def parseKeyLogLine (line : List Char) : Option KeyLogEntry :=
  match line.splitOn ' ' with
  | [label, clientRandom, secret] =>
    if String.ofList label ∈ keyLogLabels then
      match hexDecode clientRandom, hexDecode secret with
      | some clientRandom, some secret => some ⟨String.ofList label, clientRandom, secret⟩
      | _, _ => none
    else none
  | _ => none

/-- The entries of a key log; other lines are skipped. -/
def parseKeyLog (text : List Char) : List KeyLogEntry :=
  (completeLines text).filterMap parseKeyLogLine

/-- The secrets that are set, each under its label, with the client random. -/
def keyLogEntries (s : TlsSecrets) : List KeyLogEntry :=
  let clientRandom := if s.clientRandomIsSet then s.clientRandom else []
  let entry (isSet : Bool) (label : String) (secret : Bytes) : List KeyLogEntry :=
    if isSet then [⟨label, clientRandom, secret.take (min s.secretLength.toNat 64)⟩] else []
  entry s.clientEarlyTrafficSecretIsSet "CLIENT_EARLY_TRAFFIC_SECRET" s.clientEarlyTrafficSecret ++
  entry s.clientHandshakeTrafficSecretIsSet "CLIENT_HANDSHAKE_TRAFFIC_SECRET"
    s.clientHandshakeTrafficSecret ++
  entry s.serverHandshakeTrafficSecretIsSet "SERVER_HANDSHAKE_TRAFFIC_SECRET"
    s.serverHandshakeTrafficSecret ++
  entry s.clientTrafficSecret0IsSet "CLIENT_TRAFFIC_SECRET_0" s.clientTrafficSecret0 ++
  entry s.serverTrafficSecret0IsSet "SERVER_TRAFFIC_SECRET_0" s.serverTrafficSecret0

/-- The text of a line without its newline. -/
def lineBody (line : List String) : List Char := (fragmentsText line).dropLast

theorem lineBody_keyLogLine (label clientRandom : String) (secret : Bytes) :
    lineBody (keyLogLine label clientRandom secret) =
        label.toList ++ ' ' :: (clientRandom.toList ++ ' ' :: (hexEncode secret).toList) ∧
      fragmentsText (keyLogLine label clientRandom secret) =
        lineBody (keyLogLine label clientRandom secret) ++ ['\n'] := by
  have htext : fragmentsText (keyLogLine label clientRandom secret) =
      (label.toList ++ ' ' :: (clientRandom.toList ++ ' ' :: (hexEncode secret).toList)) ++
        ['\n'] := by
    simp [keyLogLine, fragmentsText]
  rw [lineBody, htext, List.dropLast_concat]
  exact ⟨rfl, rfl⟩

theorem not_mem_label {label : String} (h : label ∈ keyLogLabels) :
    ' ' ∉ label.toList ∧ '\n' ∉ label.toList := by
  revert label
  decide

theorem parse_keyLogLine {label : String} (hl : label ∈ keyLogLabels) (clientRandom secret : Bytes) :
    parseKeyLogLine (lineBody (keyLogLine label (hexEncode clientRandom) secret)) =
      some ⟨label, clientRandom, secret⟩ := by
  have hsplit : (lineBody (keyLogLine label (hexEncode clientRandom) secret)).splitOn ' ' =
      [label.toList, (hexEncode clientRandom).toList, (hexEncode secret).toList] := by
    rw [(lineBody_keyLogLine _ _ _).1, List.splitOn_append_cons_self, List.splitOn_append_cons_self,
      List.splitOn_eq_singleton (not_mem_label hl).1,
      List.splitOn_eq_singleton (not_mem_hexEncode _).1,
      List.splitOn_eq_singleton (not_mem_hexEncode _).1]
    rfl
  unfold parseKeyLogLine
  rw [hsplit]
  simp only [String.ofList_toList, hl, if_true, hexDecode_hexEncode]

theorem parse_keyLogLines (s : TlsSecrets) :
    (keyLogLines s).filterMap (fun line => parseKeyLogLine (lineBody line)) = keyLogEntries s := by
  have hrandom : (if s.clientRandomIsSet then hexEncode s.clientRandom else "") =
      hexEncode (if s.clientRandomIsSet then s.clientRandom else []) := by
    split <;> rfl
  have hline (isSet : Bool) {label : String} (secret : Bytes) (hl : label ∈ keyLogLabels) :
      (if isSet then [keyLogLine label (hexEncode (if s.clientRandomIsSet then s.clientRandom
        else [])) secret] else []).filterMap (fun line => parseKeyLogLine (lineBody line)) =
      if isSet then [⟨label, if s.clientRandomIsSet then s.clientRandom else [], secret⟩] else [] := by
    cases isSet with
    | false => rfl
    | true => simp [parse_keyLogLine hl]
  unfold keyLogLines keyLogEntries
  simp only [hrandom, List.filterMap_append]
  rw [hline _ _ (by simp [keyLogLabels]), hline _ _ (by simp [keyLogLabels]),
    hline _ _ (by simp [keyLogLabels]), hline _ _ (by simp [keyLogLabels]),
    hline _ _ (by simp [keyLogLabels])]

/-! ## The file -/

section

variable {s : TlsSecrets} {line front rest : List String}

theorem newline_not_mem_line (h : line ∈ keyLogLines s) :
    '\n' ∉ lineBody line ∧ fragmentsText line = lineBody line ++ ['\n'] := by
  obtain ⟨label, hl, secret, rfl⟩ := mem_keyLogLines h
  refine ⟨?_, (lineBody_keyLogLine _ _ _).2⟩
  have hrandom : '\n' ∉ (if s.clientRandomIsSet then hexEncode s.clientRandom else "").toList := by
    split
    · exact (not_mem_hexEncode _).2
    · exact List.not_mem_nil
  rw [(lineBody_keyLogLine _ _ _).1]
  simp only [List.mem_append, List.mem_cons, not_or]
  exact ⟨(not_mem_label hl).2, by decide, hrandom, by decide, (not_mem_hexEncode _).2⟩

theorem newline_not_mem_front (h : front ++ rest ∈ keyLogLines s) (hr : rest ≠ []) :
    '\n' ∉ fragmentsText front := by
  obtain ⟨hbody, heq⟩ := newline_not_mem_line h
  rw [fragmentsText_append] at heq
  rcases List.prefix_concat_iff.mp ⟨_, heq⟩ with hall | hpre
  · -- the last fragment is the newline
    obtain ⟨label, -, secret, hline⟩ := mem_keyLogLines h
    have hlast := congrArg List.getLast? hline
    rw [List.getLast?_append_of_ne_nil _ hr] at hlast
    have hmem : "\n" ∈ rest := List.mem_of_getLast? hlast
    have hrest : fragmentsText rest = [] := by
      rw [← hall] at heq
      exact List.append_right_eq_self.mp heq
    have hnil := List.flatMap_eq_nil_iff.mp hrest _ hmem
    cases hnil
  · exact fun hmem => hbody (hpre.subset hmem)

end

/-- What is written of whole lines is read back, and of a line that is not finished nothing. -/
theorem parse_fragments {written : List (List String)}
    (hw : ∀ line ∈ written, ∃ s, line ∈ keyLogLines s) (hf : '\n' ∉ fragmentsText front) :
    parseKeyLog (fragmentsText (written.flatten ++ front)) =
      written.filterMap fun line => parseKeyLogLine (lineBody line) := by
  have htext : fragmentsText written.flatten =
      (written.map lineBody).flatMap fun line => line ++ ['\n'] := by
    rw [fragmentsText_flatten, List.flatten_eq_flatMap, List.flatMap_map, List.flatMap_map]
    refine List.flatMap_congr fun line hl => ?_
    obtain ⟨s, hs⟩ := hw line hl
    exact (newline_not_mem_line hs).2
  have hbodies : ∀ body ∈ written.map lineBody, '\n' ∉ body := by
    intro body hb
    obtain ⟨line, hl, rfl⟩ := List.mem_map.mp hb
    obtain ⟨s, hs⟩ := hw line hl
    exact (newline_not_mem_line hs).1
  rw [parseKeyLog, fragmentsText_append, htext, completeLines_lines hbodies,
    completeLines_unfinished hf, List.append_nil, List.filterMap_map]
  rfl

section

variable {ω : Type} {tr : List (KeyLogStep ω)} {s : KeyLogSys ω}

/-- **Every connection's secrets can be read back** from the key log, where no handler has begun a
line inside another one: the file has the entries that it had before and, each once, those of
every connection but for the lines that are not finished. -/
theorem keyLog_read_back (h : (keyLogSystem ω).Run tr s)
    (hturn : ∀ e ∈ tr, ¬ BeginsInside e.pre e.label)
    (h0 : EndsLine (origin tr s).file.text) :
    ∃ left, (parseKeyLog s.file.text ++ left).Perm
        (parseKeyLog (origin tr s).file.text ++ (recorded tr).flatMap keyLogEntries) ∧
      ((∀ c ∈ s.conns, c.writer.Done) → left = []) := by
  obtain ⟨htext, -⟩ := text_of_run h
  obtain ⟨written, front, left, hlog, hall, hleft⟩ := whole_of_run h hturn
  have hmem {line : List String} (hl : line ∈ written ++ left) : ∃ s, line ∈ keyLogLines s := by
    obtain ⟨secrets, -, hs⟩ := List.mem_flatMap.mp (hall.mem_iff.mp hl)
    exact ⟨secrets, hs⟩
  have hfront : '\n' ∉ fragmentsText front := by
    cases hleft with
    | idle => exact List.not_mem_nil
    | inside hf hi hw honly =>
      obtain ⟨secrets, hs⟩ := hmem (List.mem_append_right _ List.mem_cons_self)
      exact newline_not_mem_front hs hw
  have hparse := parse_fragments (fun line hl => hmem (List.mem_append_left _ hl)) hfront
  refine ⟨left.filterMap fun line => parseKeyLogLine (lineBody line), ?_, fun hdone => ?_⟩
  · have hentries := hall.filterMap fun line => parseKeyLogLine (lineBody line)
    rw [List.filterMap_append, List.filterMap_flatMap] at hentries
    simp only [parse_keyLogLines] at hentries
    rw [htext, hlog, parseKeyLog, h0.completeLines_append, List.filterMap_append, List.append_assoc]
    refine List.Perm.append_left _ ?_
    rw [← hparse] at hentries
    exact hentries
  · rw [hleft.eq_nil fun w hw => ?_]
    · rfl
    obtain ⟨c, hc, rfl⟩ := List.mem_map.mp hw
    exact (hdone c hc).2

end

theorem BeginsInside.isWrite {ω : Type} {s : KeyLogSys ω} {l : KeyLogLabel}
    (h : BeginsInside s l) : ∃ i, l = .write i := by
  obtain ⟨i, -, hl, -⟩ := h
  exact ⟨i, hl⟩

/-- A handler writes behind a comment, and the file has its secret. -/
theorem keyLog_read_back_comment :
    ∃ (tr : List (KeyLogStep Nat)) (s : KeyLogSys Nat), (keyLogSystem Nat).Run tr s ∧
      (origin tr s).file.text = "# log\n".toList ∧ recorded tr = [serverSecrets 1] ∧
      (parseKeyLog s.file.text).Perm
        [⟨"SERVER_TRAFFIC_SECRET_0", List.replicate 32 1, List.replicate 32 1⟩] := by
  have h0 := System.Run.start (S := keyLogSystem Nat)
    (s := { listener := { sslkeylogFile := some 6 }, file := { text := "# log\n".toList } }) rfl
  have h1 := h0.step (KeyLogLabel.newConnection 1 (some 7) 10 (.ok ()) (.ok ())) trivial
  have h2 := h1.step (KeyLogLabel.connected 0 fun _ => serverSecrets 1) (by
    rintro c ⟨⟩
    exact ⟨⟨rfl, rfl, rfl⟩, fun _ _ => rfl⟩)
  have h8 := run_write 0 (run_write 0 (run_write 0 (run_write 0 (run_write 0 (run_write 0 h2)))))
  obtain ⟨left, hperm, hleft⟩ := keyLog_read_back h8
    (by
      simp only [List.forall_mem_cons, System.take_pre, System.take_label]
      refine ⟨?_, ?_, ?_, ?_, ?_, ?_, fun h => ?_, fun h => ?_, List.forall_mem_nil _⟩
      case refine_7 | refine_8 =>
        obtain ⟨_, hl⟩ := h.isWrite
        cases hl
      all_goals
        refine not_beginsInside ?_
        rintro (_ | j) c ⟨⟩ hj
        exact absurd rfl hj)
    (.inr ⟨"# log".toList, rfl⟩)
  have hdone : left = [] := hleft (by
    show ∀ c ∈ [_], KeyLogWriter.Done _
    rw [List.forall_mem_singleton]
    exact ⟨rfl, rfl, rfl⟩)
  rw [hdone, List.append_nil] at hperm
  exact ⟨_, _, h8, rfl, rfl, hperm.trans (.of_eq (by decide))⟩

end MsquicAsync
