import MsquicAsync.Stream.Send
import MsquicAsync.Connection.Send

/-!
# A connection and its streams

All of them draw their write buffers from one allocator, which returns addresses
that nobody holds. In every run each buffer is in one pool or with MsQuic, comes
back once each time it was handed over, and is empty in its pool, so MsQuic is
handed exactly what each write or datagram send was given
(`write_buffers_exact`).
-/

namespace MsquicAsync

open Runs Ranges Lending

structure EndpointSys (R ω : Type) where
  conn : ConnectionSys ω
  streams : List (StreamSys R ω) := []

inductive EndpointLabel (ω : Type) where
  | conn (l : ConnectionLabel ω)
  /-- A step of the stream at an index. -/
  | stream (i : Nat) (l : StreamLabel ω)
  | openStream (streamType : StreamType)
  | acceptStream (streamType : StreamType)

inductive EndpointOut (ω : Type) where
  | conn (out : Out ω ConnectionCall ConnectionRes)
  | stream (out : Out ω StreamCall StreamRes)
  | none

namespace EndpointLabel

variable {ω : Type}

/-- What the step is asked to send. -/
def pieces? : EndpointLabel ω → Option (List Bytes)
  | conn l => l.pieces?
  | stream _ l => l.pieces?
  | _ => none

/-- The address the allocator has for the step. -/
def fresh? : EndpointLabel ω → Option Nat
  | conn l => l.fresh?
  | stream _ l => l.fresh?
  | _ => none

/-- The context whose send MsQuic reports as done. -/
def completes? : EndpointLabel ω → Option Nat
  | conn l => l.completes?
  | stream _ l => l.completes?
  | _ => none

end EndpointLabel

namespace EndpointOut

variable {ω : Type}

/-- The sends the step made. -/
def sent : EndpointOut ω → List Sent
  | conn out => datagramSends out.calls
  | stream out => sends out.calls
  | none => []

/-- The count the step answered with. -/
def written? : EndpointOut ω → Option Nat
  | stream out => out.result.written?
  | _ => Option.none

end EndpointOut

namespace EndpointSys

variable {R ω : Type}

/-- The boxes of the connection and of each stream. -/
def parts (s : EndpointSys R ω) : List Boxes := s.conn.boxes :: s.streams.map StreamSys.boxes

/-- All boxes by their addresses: the pools keep them, MsQuic is lent them. -/
def ledger (s : EndpointSys R ω) : Ledger Nat := .total (s.parts.map Boxes.ledger)

/-- The boxes a step works on. -/
def acting (s : EndpointSys R ω) : EndpointLabel ω → Option Boxes
  | .conn _ => some s.conn.boxes
  | .stream i _ => s.streams[i]?.map StreamSys.boxes
  | _ => none

/-- The addresses a step that sends `sent` allocates. -/
def made (s : EndpointSys R ω) (l : EndpointLabel ω) (sent : List Sent) : List Nat :=
  match s.acting l with
  | some x => x.made sent
  | none => []

variable [RangeSet R] [WillWake ω] [StatusApi]

def next (w : Nat) (s : EndpointSys R ω) : EndpointLabel ω → EndpointSys R ω × EndpointOut ω
  | .conn l => ({ s with conn := (s.conn.step l).state }, .conn (s.conn.step l).toOut)
  | .stream i l =>
    match s.streams[i]? with
    | some x =>
      ({ s with streams := s.streams.set i (x.step w l).state }, .stream (x.step w l).toOut)
    | none => (s, .none)
  | .openStream streamType =>
    ({ s with streams := s.streams ++ [{ inner := .opened streamType }] }, .none)
  | .acceptStream streamType =>
    ({ s with streams := s.streams ++ [{ inner := .fromRaw streamType }] }, .none)

end EndpointSys

abbrev EndpointStep (R ω : Type) := Step (EndpointSys R ω) (EndpointLabel ω) (EndpointOut ω)

/-! ## Histories of sends -/

section

variable {R ω : Type}

/-- The addresses that have been allocated. -/
def allocated (tr : List (EndpointStep R ω)) : List Nat :=
  tr.flatMap fun e => e.pre.made e.label e.out.sent

/-- The addresses that have been handed to MsQuic, as often as they were. -/
def handedOver (tr : List (EndpointStep R ω)) : List Nat :=
  tr.flatMap fun e => e.out.sent.map fun m => m.box.ptr

/-- The addresses that have been reclaimed, as often as they were. -/
def reclaimed (tr : List (EndpointStep R ω)) : List Nat :=
  tr.flatMap fun e => takenBack e.out.sent e.label.completes?

/-- What MsQuic and the allocator guarantee to each step. -/
def SendsAllowed (s : EndpointSys R ω) : EndpointLabel ω → Prop
  | .conn l => s.conn.SendContract l
  | .stream i l => ∃ x, s.streams[i]? = some x ∧ x.SendContract l
  | _ => True

/-- A new box is at an address that nobody holds, pieces are shorter than `2 ^ 32`, and a
completion names a box that MsQuic has. -/
structure EndpointContract (tr : List (EndpointStep R ω)) (s : EndpointSys R ω)
    (l : EndpointLabel ω) : Prop where
  fresh : ∀ a, l.fresh? = some a → a ∉ s.ledger.all
  sends : SendsAllowed s l

variable [RangeSet R] [WillWake ω] [StatusApi]

/-- The system of a connection and its streams; `w` is the width of a `usize`. -/
def endpointSystem (w : Nat) (ok : List (EndpointStep R ω) → EndpointSys R ω →
    EndpointLabel ω → Prop) : System (EndpointSys R ω) (EndpointLabel ω) (EndpointOut ω) where
  init s := ConnectionSys.Init s.conn ∧ s.streams = []
  ok := ok
  next := EndpointSys.next w

end

/-! ## What each step does -/

section

variable {R ω : Type} [RangeSet R] [WillWake ω] [StatusApi] {w : Nat} {s : EndpointSys R ω}
  {tr : List (EndpointStep R ω)} {l : EndpointLabel ω}

/-- What a step does to the boxes of all parts. -/
structure EndpointMoves (s : EndpointSys R ω) (l : EndpointLabel ω)
    (r : EndpointSys R ω × EndpointOut ω) : Prop where
  moves : Moves s.ledger r.1.ledger (s.made l r.2.sent) (r.2.sent.map fun m => m.box.ptr)
    (takenBack r.2.sent l.completes?)
  made : s.made l r.2.sent = [] ∨ ∃ a, l.fresh? = some a ∧ s.made l r.2.sent = [a]
  empty : (∀ x ∈ s.parts, ∀ b ∈ x.pool, b.Empty) → ∀ x ∈ r.1.parts, ∀ b ∈ x.pool, b.Empty
  exact : (∀ x ∈ s.parts, ∀ b ∈ x.pool, b.Empty) →
    SendExact l.pieces? r.2.sent r.2.written?

omit [RangeSet R] [WillWake ω] [StatusApi] in
theorem endpointMoves_addStream {x : StreamSys R ω} (hx : x.boxes = ⟨[], []⟩)
    (ha : s.acting l = none) (hl : l.completes? = none) :
    EndpointMoves s l ({ s with streams := s.streams ++ [x] }, .none) := by
  have hmade : s.made l (EndpointOut.none : EndpointOut ω).sent = [] := by
    rw [EndpointSys.made, ha]
  refine ⟨?_, .inl hmade, fun h => ?_, fun _ => sendExact_none _⟩
  · have hledger : ({ s with streams := s.streams ++ [x] } : EndpointSys R ω).ledger = s.ledger := by
      simp only [EndpointSys.ledger, EndpointSys.parts, List.map_append, List.map_cons, List.map_nil,
        hx, ← List.cons_append]
      exact Ledger.total_append_empty _
    rw [hl, hledger, hmade]
    exact .refl _
  · intro y hy
    simp only [EndpointSys.parts, List.map_append, ← List.cons_append] at hy
    rcases List.mem_append.mp hy with hy | hy
    · exact h y hy
    · rw [List.mem_singleton.mp hy, hx]
      exact fun b hb => by cases hb

theorem EndpointSys.next_moves (h : SendsAllowed s l) : EndpointMoves s l (s.next w l) := by
  cases l with
  | conn l =>
    obtain ⟨hb, hx⟩ := ConnectionSys.step_boxes (s := s.conn) h
    refine ⟨?_, hb.made_eq, fun he => ?_, fun he => ?_⟩
    · exact hb.moves.append_right _
    · exact List.forall_mem_cons.mpr ⟨hb.empty (he _ List.mem_cons_self),
        fun x hx => he x (List.mem_cons_of_mem _ hx)⟩
    · exact hx (he _ List.mem_cons_self)
  | stream i l =>
    obtain ⟨x, hi, hok⟩ := h
    obtain ⟨hb, hx⟩ := StreamSys.step_boxes (w := w) hok
    have hnext : s.next w (.stream i l) = ({ s with streams := s.streams.set i (x.step w l).state },
        .stream (x.step w l).toOut) := by
      simp only [next, hi]
    have hmade (sent : List Sent) : s.made (.stream i l) sent = x.boxes.made sent := by
      simp only [made, acting, hi, Option.map_some]
    have hmem : x.boxes ∈ s.parts :=
      List.mem_cons_of_mem _ (List.mem_map_of_mem (List.mem_of_getElem? hi))
    rw [hnext]
    refine ⟨?_, ?_, fun he => ?_, fun he => hx (he _ hmem)⟩
    · have hpart : (s.parts.map Boxes.ledger)[i + 1]? = some x.boxes.ledger := by
        simp [parts, hi]
      have hledger : ({ s with streams := s.streams.set i (x.step w l).state } :
          EndpointSys R ω).ledger =
          .total ((s.parts.map Boxes.ledger).set (i + 1) (x.step w l).state.boxes.ledger) := by
        simp [ledger, parts, List.map_set]
      rw [hmade, hledger]
      exact hb.moves.total_set hpart
    · rw [hmade]
      exact hb.made_eq
    · refine List.forall_mem_cons.mpr ⟨he _ List.mem_cons_self, fun y hy => ?_⟩
      obtain ⟨z, hz, rfl⟩ := List.mem_map.mp hy
      rcases List.mem_or_eq_of_mem_set hz with hz | rfl
      · exact he _ (List.mem_cons_of_mem _ (List.mem_map_of_mem hz))
      · exact hb.empty (he _ hmem)
  | openStream streamType => exact endpointMoves_addStream rfl rfl rfl
  | acceptStream streamType => exact endpointMoves_addStream rfl rfl rfl

/-! ## Every run -/

/-- What every step keeps. -/
structure WriteBuffersExact (tr : List (EndpointStep R ω)) (s : EndpointSys R ω) : Prop where
  balanced : Balanced s.ledger (allocated tr) (handedOver tr) (reclaimed tr)
  empty : ∀ x ∈ s.parts, ∀ b ∈ x.pool, b.Empty
  exact : ∀ e ∈ tr, SendExact e.label.pieces? e.out.sent e.out.written?

theorem WriteBuffersExact.step (h : WriteBuffersExact tr s) (hok : EndpointContract tr s l) :
    WriteBuffersExact ((endpointSystem w EndpointContract).take s l :: tr) (s.next w l).1 := by
  have hm := EndpointSys.next_moves (w := w) hok.sends
  have hnew : (s.made l (s.next w l).2.sent).Nodup := by
    rcases hm.made with hnil | ⟨a, -, ha⟩
    · rw [hnil]
      exact List.nodup_nil
    · rw [ha]
      exact List.nodup_singleton a
  have hfresh : ∀ a ∈ s.made l (s.next w l).2.sent, a ∉ s.ledger.all := by
    intro a ha
    rcases hm.made with hnil | ⟨b, hf, hb⟩
    · rw [hnil] at ha
      cases ha
    · rw [hb] at ha
      rw [List.mem_singleton.mp ha]
      exact hok.fresh b hf
  exact ⟨h.balanced.step hm.moves hnew hfresh, hm.empty h.empty,
    List.forall_mem_cons.mpr ⟨hm.exact h.empty, h.exact⟩⟩

theorem writeBuffersExact_run (h : (endpointSystem w EndpointContract).Run tr s) :
    WriteBuffersExact tr s := by
  refine h.invariant (I := WriteBuffersExact) ?_ fun _ _ _ _ hok ih => ih.step hok
  rintro ⟨conn, streams⟩ ⟨hc, rfl⟩
  have hboxes : conn.boxes = ⟨[], []⟩ := by cases hc <;> rfl
  refine ⟨?_, ?_, fun e he => by cases he⟩
  · have hledger : (EndpointSys.mk conn [] : EndpointSys R ω).ledger = ⟨[], []⟩ := by
      simp [EndpointSys.ledger, EndpointSys.parts, hboxes, Boxes.ledger, Ledger.total, Ledger.append]
    rw [hledger]
    exact .empty
  · intro x hx
    rw [List.mem_singleton.mp hx, hboxes]
    exact fun b hb => by cases hb

end

end MsquicAsync
