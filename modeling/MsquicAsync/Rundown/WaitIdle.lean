import Mathlib
import MsquicAsync.Lib.Runs

/-!
# Guards and futures of the rundown

Guards and `WaitIdle` futures share a count and a locked map of wakers. Here every
atomic access to the count, every critical section on the map and every wake is
a step of its own, in any interleaving: what a thread does between two of them
belongs to the earlier one. The count is a `Nat`, since each unit of it is a
guard in memory; the key counter is 64 bits wide.
-/

namespace MsquicAsync

open Runs

variable {ω : Type}

/-- The map as a list of entries; an insert replaces the entry of its key. -/
structure Waiters (ω : Type) where
  next : Nat := 0
  map : List (Nat × ω) := []

namespace Waiters

def insert (x : Waiters ω) (key : Nat) (waker : ω) : Waiters ω :=
  { x with map := (key, waker) :: x.map.filter fun e => e.1 ≠ key }

def remove (x : Waiters ω) (key : Nat) : Waiters ω :=
  { x with map := x.map.filter fun e => e.1 ≠ key }

end Waiters

structure RundownState (ω : Type) where
  active : Nat := 0
  waiters : Waiters ω := {}

/-- A `RundownGuard` whose drop has taken the count to 0, from its decrement on. -/
inductive GuardDrop (ω : Type) where
  /-- Before its critical section. -/
  | draining
  /-- The wakers it has drained and not yet woken. -/
  | waking (wakers : List ω)

/-- Where a `WaitIdle` stands in its poll. -/
inductive PollPhase (ω : Type) where
  /-- Not being polled. -/
  | idle
  /-- The first load was not 0. -/
  | registering (cx : ω)
  /-- `cx` is in the map; has it been woken since? -/
  | rechecking (cx : ω) (woken : Bool)
  /-- A load was 0, the first one or the one after `registered` was put in the map. -/
  | deregistering (registered : Option ω)

structure WaitIdle (ω : Type) where
  key : Option Nat := none
  phase : PollPhase ω := .idle
  /-- The waker of the last completed poll, if that was pending, and whether it has been woken
  since that poll put it in the map. -/
  pending : Option (ω × Bool) := none

namespace WaitIdle

/-- `WaitIdle::deregister`. -/
def deregister (x : WaitIdle ω) (r : RundownState ω) : WaitIdle ω × RundownState ω :=
  match x.key with
  | some key => ({ x with key := none }, { r with waiters := r.waiters.remove key })
  | none => (x, r)

/-- The poll answers Ready. -/
def ready (x : WaitIdle ω) : WaitIdle ω := { x with phase := .idle, pending := none }

/-- The first load of a poll; without a key there is nothing to deregister. -/
def load (x : WaitIdle ω) (r : RundownState ω) (cx : ω) : WaitIdle ω :=
  if r.active = 0 then
    match x.key with
    | some _ => { x with phase := .deregistering none }
    | none => x.ready
  else { x with phase := .registering cx }

/-- The critical section of a poll. -/
def register (x : WaitIdle ω) (r : RundownState ω) (cx : ω) : WaitIdle ω × RundownState ω :=
  match x.key with
  | some key =>
    ({ x with phase := .rechecking cx false }, { r with waiters := r.waiters.insert key cx })
  | none =>
    let key := r.waiters.next
    ({ x with key := some key, phase := .rechecking cx false },
      { r with waiters := { r.waiters with next := (key + 1) % 2 ^ 64 }.insert key cx })

/-- The second load of a poll. -/
def recheck (x : WaitIdle ω) (r : RundownState ω) (cx : ω) (woken : Bool) : WaitIdle ω :=
  if r.active = 0 then { x with phase := .deregistering (some cx) }
  else { x with phase := .idle, pending := some (cx, woken) }

/-- Keep in mind that `cx` has been woken. -/
def noteWake [DecidableEq ω] (x : WaitIdle ω) (cx : ω) : WaitIdle ω :=
  { x with
    phase :=
      match x.phase with
      | .rechecking cx' woken => .rechecking cx' (woken || cx' = cx)
      | phase => phase
    pending := x.pending.map fun p => (p.1, p.2 || p.1 = cx) }

end WaitIdle

/-- The rundown, the guards that exist, the drops that have taken the count to 0, and the
futures, by the names of their tasks. -/
structure RundownSys (ω : Type) where
  rundown : RundownState ω := {}
  guards : Nat := 0
  drops : List (GuardDrop ω) := []
  futures : Nat → Option (WaitIdle ω) := fun _ => none

inductive RundownLabel (ω : Type) where
  | newGuard
  /-- The decrement of a guard that is dropped. -/
  | dropGuard
  | drain (d : Nat)
  /-- Wake one of the drained wakers; the order of a hash map is any order. -/
  | wake (d n : Nat)
  | waitIdle (i : Nat)
  | load (i : Nat) (cx : ω)
  | register (i : Nat)
  | recheck (i : Nat)
  | deregister (i : Nat)
  | dropWaitIdle (i : Nat)

namespace RundownSys

def set (s : RundownSys ω) (i : Nat) (x : Option (WaitIdle ω)) : RundownSys ω :=
  { s with futures := fun j => if j = i then x else s.futures j }

/-- A step that does not apply does nothing. -/
def next [DecidableEq ω] (s : RundownSys ω) : RundownLabel ω → RundownSys ω
  | .newGuard =>
    { s with
      rundown := { s.rundown with active := s.rundown.active + 1 }
      guards := s.guards + 1 }
  | .dropGuard =>
    if s.guards = 0 then s
    else
      { s with
        rundown := { s.rundown with active := s.rundown.active - 1 }
        guards := s.guards - 1
        drops := if s.rundown.active = 1 then s.drops ++ [.draining] else s.drops }
  | .drain d =>
    match s.drops[d]? with
    | some .draining =>
      { s with
        rundown := { s.rundown with waiters := { s.rundown.waiters with map := [] } }
        drops := s.drops.set d (.waking (s.rundown.waiters.map.map Prod.snd)) }
    | _ => s
  | .wake d n =>
    match s.drops[d]? with
    | some (.waking wakers) =>
      match wakers[n]? with
      | some cx =>
        { s with
          drops := s.drops.set d (.waking (wakers.eraseIdx n))
          futures := fun j => (s.futures j).map fun x => x.noteWake cx }
      | none => s
    | _ => s
  | .waitIdle i =>
    match s.futures i with
    | none => s.set i (some {})
    | some _ => s
  | .load i cx =>
    match s.futures i with
    | some x =>
      match x.phase with
      | .idle => s.set i (x.load s.rundown cx)
      | _ => s
    | none => s
  | .register i =>
    match s.futures i with
    | some x =>
      match x.phase with
      | .registering cx =>
        let (x, rundown) := x.register s.rundown cx
        { s with rundown := rundown }.set i x
      | _ => s
    | none => s
  | .recheck i =>
    match s.futures i with
    | some x =>
      match x.phase with
      | .rechecking cx woken => s.set i (x.recheck s.rundown cx woken)
      | _ => s
    | none => s
  | .deregister i =>
    match s.futures i with
    | some x =>
      match x.phase with
      | .deregistering _ =>
        let (x, rundown) := x.deregister s.rundown
        { s with rundown := rundown }.set i x.ready
      | _ => s
    | none => s
  | .dropWaitIdle i =>
    match s.futures i with
    | some x =>
      match x.phase with
      | .idle => { s with rundown := (x.deregister s.rundown).2 }.set i none
      | _ => s
    | none => s

end RundownSys

abbrev RundownStep (ω : Type) := Step (RundownSys ω) (RundownLabel ω) Unit

/-- The system of a rundown under a contract for its environment. -/
def rundownSystem [DecidableEq ω]
    (ok : List (RundownStep ω) → RundownSys ω → RundownLabel ω → Prop) :
    System (RundownSys ω) (RundownLabel ω) Unit where
  init s := s = {}
  ok := ok
  next s l := (s.next l, ())

/-- The key counter has a key left for every registration. -/
def KeysLeft (_ : List (RundownStep ω)) (s : RundownSys ω) : RundownLabel ω → Prop
  | .register i => ∀ x, s.futures i = some x → x.key = none → s.rundown.waiters.next + 1 < 2 ^ 64
  | _ => True

end MsquicAsync
