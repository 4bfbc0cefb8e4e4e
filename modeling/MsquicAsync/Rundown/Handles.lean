import MsquicAsync.Lib.Runs
import MsquicAsync.Connection.State

/-!
# Handles and their owners

A `Listener`, a `ConnectionInstance` and a `StreamInstance` are built alike: an
`Arc` of the inner, the MsQuic handle, the guard, in this order. The handle owns
the callback closure with the other `Arc` of the inner, and the inner of a
listener or a connection queues what its callbacks create. A thread is a stack of
tasks, the innermost first; every task is one atomic step, in any interleaving.
Dropping the last owner of an instance puts its fields on the stack. MsQuic runs
callbacks only while the handle is open, so its close waits for them.
-/

namespace MsquicAsync

open Runs

inductive HandleKind where
  | listener
  | connection
  | stream (streamType : StreamType) (localOpen : Bool)
  deriving DecidableEq, Repr

inductive Wrapper where
  | listener
  | connection
  | stream
  | readStream
  | writeStream
  | recvBuffer
  deriving DecidableEq, Repr

/-- A wrapper value: a `Listener`, or an `Arc` of a connection's or a stream's instance. -/
structure Owner where
  wrapper : Wrapper
  target : Nat
  deriving DecidableEq, Repr

/-- The wrapper that a constructor returns. -/
def HandleKind.wrapper : HandleKind → Wrapper
  | listener => .listener
  | connection => .connection
  | stream _ _ => .stream

/-- `Stream::split`. -/
def splitStream (streamType : StreamType) (localOpen : Bool) (stream : Owner) :
    Option Owner × Option Owner :=
  match streamType, localOpen with
  | .unidirectional, true => (none, some { stream with wrapper := .writeStream })
  | .unidirectional, false => (some { stream with wrapper := .readStream }, none)
  | .bidirectional, _ =>
    (some { stream with wrapper := .readStream }, some { stream with wrapper := .writeStream })

inductive QueueName where
  | newConnections
  | inboundStreams
  | inboundUniStreams
  deriving DecidableEq, Repr

inductive Native where
  | unopened
  | opened
  | closed
  deriving DecidableEq, Repr

structure Instance where
  kind : HandleKind := .connection
  /-- The owners: the strong count of the instance's `Arc`; a `Listener` owns itself. -/
  strong : Nat := 0
  /-- The strong count of the inner. -/
  innerStrong : Nat := 0
  native : Native := .unopened
  guard : Bool := false
  /-- The callbacks that MsQuic is running on the handle. -/
  callbacks : Nat := 0
  queues : QueueName → List Owner := fun _ => []

/-- The queues of an inner, in the order in which its drop drops them. -/
def Instance.queued (x : Instance) : List Owner :=
  x.queues .newConnections ++ (x.queues .inboundStreams ++ x.queues .inboundUniStreams)

def Instance.setQueue (x : Instance) (q : QueueName) (l : List Owner) : Instance :=
  { x with queues := fun q' => if q' = q then l else x.queues q' }

inductive Task where
  /-- `Connection::new`, `Listener::new` or `Stream::open`, with the guard taken. -/
  | openHandle (i : Nat)
  /-- A constructor whose handle is open; in a callback on `parent` if there is one. -/
  | wrap (parent : Option Nat) (i : Nat)
  /-- `handle_event_new_connection` before its last fallible step; the new handle is an owned
  argument, or with `msquic-2-5` a reference. -/
  | configure (parent : Nat) (owned : Bool)
  /-- The early return of that callback drops the owned argument. -/
  | closeArgument (parent : Nat)
  /-- `from_raw` with the guard taken; the handle may already be an owned argument. -/
  | fromRaw (parent i : Nat) (owned : Bool)
  /-- A callback queues what it has created. -/
  | enqueue (parent : Nat) (created : Owner)
  | endCallback (parent : Nat)
  | drop (owner : Owner)
  | dropInner (i : Nat)
  /-- Close the handle, then drop its closure. -/
  | close (i : Nat)
  | dropGuard (i : Nat)
  deriving DecidableEq, Repr

/-- The fields of an instance in declaration order. -/
def fields (i : Nat) : List Task := [.dropInner i, .close i, .dropGuard i]

/-- What a constructor drops when its open fails. The guard is a local declared after the inner,
but for `Stream::open` an argument. -/
def HandleKind.unwind (i : Nat) : HandleKind → List Task
  | stream _ _ => [.dropInner i, .dropGuard i]
  | _ => [.dropGuard i, .dropInner i]

structure HandleSys where
  active : Nat := 0
  instances : List Instance := []
  /-- The wrappers the application holds. -/
  held : List Owner := []
  threads : List (List Task) := []

inductive HandleLabel where
  | newListener
  | newConnection
  | openStream (conn : Nat) (streamType : StreamType)
  /-- A NewConnection callback on a listener. -/
  | connectionEvent (listener : Nat) (owned : Bool)
  /-- A PeerStreamStarted callback on a connection. -/
  | streamEvent (conn : Nat) (streamType : StreamType)
  /-- A callback on any handle that neither makes nor drops a wrapper. -/
  | otherEvent (i : Nat)
  /-- A thread does its next task; what it asks of MsQuic succeeds or fails. -/
  | advance (t : Nat) (ok : Bool)
  | clone (owner : Owner)
  | split (owner : Owner)
  | readChunk (owner : Owner)
  | accept (owner : Owner) (q : QueueName)
  | drop (owner : Owner)

namespace HandleSys

/-- Instance `i`, or an empty one. -/
def inst (s : HandleSys) (i : Nat) : Instance := s.instances[i]?.getD {}

def set (s : HandleSys) (i : Nat) (x : Instance) : HandleSys :=
  { s with instances := s.instances.set i x }

def spawn (s : HandleSys) (st : List Task) : HandleSys := { s with threads := s.threads ++ [st] }

def resume (s : HandleSys) (t : Nat) (st : List Task) : HandleSys :=
  { s with threads := s.threads.set t st }

/-- `RundownGuard::new` for a new instance, with its inner and the closure's clone of it. -/
def reserve (s : HandleSys) (kind : HandleKind) : HandleSys :=
  { s with
    active := s.active + 1
    instances := s.instances ++ [{ kind := kind, innerStrong := 2, guard := true }] }

/-- The callback on `parent` puts `created` in a queue and is done. -/
def push (s : HandleSys) (t parent : Nat) (q : QueueName) (created : Owner) (rest : List Task) :
    HandleSys :=
  (s.set parent ((s.inst parent).setQueue q ((s.inst parent).queues q ++ [created]))).resume t
    (.endCallback parent :: rest)

/-- Thread `t` does the task on top of `rest`. -/
def perform (s : HandleSys) (t : Nat) (rest : List Task) (ok : Bool) : Task → HandleSys
  | .openHandle i =>
    let x := s.inst i
    if ok then (s.set i { x with native := .opened }).resume t (.wrap none i :: rest)
    else
      (s.set i { x with innerStrong := x.innerStrong - 1 }).resume t (x.kind.unwind i ++ rest)
  | .wrap parent i =>
    let x := s.inst i
    let created : Owner := ⟨x.kind.wrapper, i⟩
    let s := s.set i { x with strong := 1 }
    match parent with
    | none => { s with held := created :: s.held }.resume t rest
    | some parent => s.resume t (.enqueue parent created :: rest)
  | .configure parent owned =>
    if ok then (s.reserve .connection).resume t (.fromRaw parent s.instances.length owned :: rest)
    else if owned then s.resume t (.closeArgument parent :: rest)
    else s.resume t (.endCallback parent :: rest)
  | .closeArgument parent => s.resume t (.endCallback parent :: rest)
  | .fromRaw parent i _ =>
    (s.set i { s.inst i with native := .opened }).resume t (.wrap (some parent) i :: rest)
  | .enqueue parent created =>
    match (s.inst created.target).kind with
    | .stream .unidirectional localOpen =>
      match splitStream .unidirectional localOpen created with
      | (some readStream, none) => s.push t parent .inboundUniStreams readStream rest
      -- not a read half alone: the callback drops the halves and fails
      | (readStream, writeStream) =>
        s.resume t ((readStream.toList ++ writeStream.toList).map .drop ++
          .endCallback parent :: rest)
    | .stream .bidirectional _ => s.push t parent .inboundStreams created rest
    | _ => s.push t parent .newConnections created rest
  | .endCallback parent =>
    let x := s.inst parent
    (s.set parent { x with callbacks := x.callbacks - 1 }).resume t rest
  | .drop owner =>
    let x := s.inst owner.target
    (s.set owner.target { x with strong := x.strong - 1 }).resume t
      (if x.strong = 1 then fields owner.target ++ rest else rest)
  | .dropInner i =>
    let x := s.inst i
    if x.innerStrong = 1 then
      (s.set i { x with innerStrong := 0, queues := fun _ => [] }).resume t
        (x.queued.map .drop ++ rest)
    else (s.set i { x with innerStrong := x.innerStrong - 1 }).resume t rest
  | .close i =>
    let x := s.inst i
    if x.callbacks = 0 then
      (s.set i { x with native := .closed }).resume t (.dropInner i :: rest)
    else s
  | .dropGuard i =>
    { s.set i { s.inst i with guard := false } with active := s.active - 1 }.resume t rest

/-- A step that does not apply does nothing. -/
def next (s : HandleSys) : HandleLabel → HandleSys
  | .newListener => (s.reserve .listener).spawn [.openHandle s.instances.length]
  | .newConnection => (s.reserve .connection).spawn [.openHandle s.instances.length]
  | .openStream conn streamType =>
    if ⟨.connection, conn⟩ ∈ s.held then
      (s.reserve (.stream streamType true)).spawn [.openHandle s.instances.length]
    else s
  | .connectionEvent listener owned =>
    let x := s.inst listener
    if x.kind = .listener ∧ x.native = .opened then
      (s.set listener { x with callbacks := x.callbacks + 1 }).spawn [.configure listener owned]
    else s
  | .streamEvent conn streamType =>
    let x := s.inst conn
    if x.kind = .connection ∧ x.native = .opened then
      ((s.set conn { x with callbacks := x.callbacks + 1 }).reserve (.stream streamType false)).spawn
        [.fromRaw conn s.instances.length false]
    else s
  | .otherEvent i =>
    let x := s.inst i
    if x.native = .opened then
      (s.set i { x with callbacks := x.callbacks + 1 }).spawn [.endCallback i]
    else s
  | .advance t ok =>
    match s.threads[t]? with
    | some (task :: rest) => s.perform t rest ok task
    | _ => s
  | .clone owner =>
    let x := s.inst owner.target
    if owner ∈ s.held ∧ owner.wrapper = .connection then
      { s.set owner.target { x with strong := x.strong + 1 } with held := owner :: s.held }
    else s
  | .split owner =>
    let x := s.inst owner.target
    match x.kind with
    | .stream streamType localOpen =>
      if owner ∈ s.held ∧ owner.wrapper = .stream then
        let (readStream, writeStream) := splitStream streamType localOpen owner
        let halves := readStream.toList ++ writeStream.toList
        { s.set owner.target { x with strong := x.strong - 1 + halves.length } with
          held := halves ++ s.held.erase owner }
      else s
    | _ => s
  | .readChunk owner =>
    let x := s.inst owner.target
    if owner ∈ s.held ∧ (owner.wrapper = .stream ∨ owner.wrapper = .readStream) then
      { s.set owner.target { x with strong := x.strong + 1 } with
        held := { owner with wrapper := .recvBuffer } :: s.held }
    else s
  | .accept owner q =>
    let x := s.inst owner.target
    match x.queues q with
    | accepted :: l =>
      if owner ∈ s.held then
        { s.set owner.target (x.setQueue q l) with held := accepted :: s.held }
      else s
    | [] => s
  | .drop owner =>
    if owner ∈ s.held then { s with held := s.held.erase owner }.spawn [.drop owner] else s

/-- The guards that exist. -/
def liveGuards (s : HandleSys) : Nat := s.instances.countP fun x => x.guard

end HandleSys

/-- A handle that a callback has as an owned argument. -/
def Task.OwnsArgument : Task → Prop
  | configure _ owned | fromRaw _ _ owned => owned = true
  | closeArgument _ => True
  | _ => False

abbrev HandleStep := Step HandleSys HandleLabel Unit

/-- Everything built on one registration. -/
def handleSystem : System HandleSys HandleLabel Unit where
  init s := s = {}
  ok _ _ _ := True
  next s l := (s.next l, ())

end MsquicAsync
