import Curfew.Supervisor.Program

/-!
# Running a program on a machine

A **`Machine`** is a world that processes live in, through the few operations that supervision
needs. A **`Session`** is a world with one child and its two drains. **`Session.execute`** runs a
program there, one request after the other.

While a program waits, drains and world take turns: the drains run until they can do no more, then
the world goes on to its next event. Every event moves the clock, so the nanoseconds left until a
deadline bound the turns.
-/

namespace Curfew.Supervisor

open Capture (Drains Captured Destination ReadReply)

/-- The operations of a world of type `σ`. -/
structure Machine (σ : Type) where
  wallClock : σ → Timestamp
  clock : σ → Instant
  /-- Starts a script as the leader of a group of its own; its process number. -/
  launch : String → σ → Except IoError Nat × σ
  /-- The exit of a child, once; `none` while it runs. -/
  reap : Nat → σ → Option (Except IoError Int32) × σ
  groupOf : Int → σ → Except Errno Int
  ownGroup : σ → Int
  signal : Int → GroupSignal → σ → Except Errno Unit × σ
  probe : Int → σ → Except Errno Unit
  killProcess : Nat → σ → σ
  /-- Reads from the pipe of a stream. -/
  read : Stream → σ → ReadReply × σ
  /-- Reads no more from the pipe of a stream. -/
  hangUp : Stream → σ → σ
  /-- Goes on to the next event, but not past an instant. -/
  proceed : Instant → σ → σ
  /-- How many steps a drain is let take between two events. -/
  steps : Nat

/-- A world, the child and the drains of a run. -/
structure Session (σ : Type) where
  world : σ
  drains : Drains
  child : Option Nat
  /-- The exit of the child, once it was reaped. -/
  exit : Option (Except IoError Int32)

namespace Session

variable {σ : Type}

/-- Nothing launched yet; the drains will forward to `out` and `err`. -/
def start (world : σ) (out err : Destination) : Session σ := ⟨world, .start out err, none, none⟩

/-- Nobody reads from the pipe of a drain that has ended. -/
def hangUp (m : Machine σ) (stream : Stream) (lane : Capture.Lane) (world : σ) : σ :=
  if lane.task.result?.isSome then m.hangUp stream world else world

/-- Lets the drains of a launched child run until they can do no more by themselves. -/
def settle (m : Machine σ) (s : Session σ) : Session σ :=
  match s.child with
  | none => s
  | some _ =>
    let (drains, world) := s.drains.settle m.read m.steps s.world
    let world := hangUp m .stdout drains.stdout (hangUp m .stderr drains.stderr world)
    { s with drains := drains, world := world }

/-- Reaps the child if it has exited. -/
def reap (m : Machine σ) (s : Session σ) : Option (Except IoError Int32) × Session σ :=
  match s.exit, s.child with
  | some waited, _ => (some waited, s)
  | none, none => (none, s)
  | none, some pid =>
    let (waited, world) := m.reap pid s.world
    (waited, { s with world := world, exit := waited })

def join (s : Session σ) : Option Unit × Session σ :=
  let (joined, drains) := s.drains.join
  (if joined then some () else none, { s with drains := drains })

/-- Takes turns with the world, at most `fuel` times, until `check` has an answer or the deadline is
there. `check` is asked once more at the deadline. -/
def awaitFor {α : Type} (m : Machine σ) (deadline : Instant)
    (check : Session σ → Option α × Session σ) : Nat → Session σ → Option α × Session σ
  | 0, s => check (s.settle m)
  | fuel + 1, s =>
    match check (s.settle m) with
    | (some a, s) => (some a, s)
    | (none, s) =>
      if (m.clock s.world).reached deadline then (none, s)
      else awaitFor m deadline check fuel { s with world := m.proceed deadline s.world }

/-- Takes turns with the world until `check` has an answer or the deadline is there. -/
def await {α : Type} (m : Machine σ) (deadline : Instant)
    (check : Session σ → Option α × Session σ) (s : Session σ) : Option α × Session σ :=
  awaitFor m deadline check ((deadline.since (m.clock s.world)).nanos + 1) s

/-- The instant a span from now, however far. -/
def fromNow (m : Machine σ) (s : Session σ) (span : Duration) : Instant :=
  ⟨(m.clock s.world).nanos + span.nanos⟩

/-- How long captures are waited for that nothing bounds. -/
def patience : Duration := .ofSeconds 1000000

def captureSoFar (lane : Capture.Lane) : Captured :=
  (lane.slot.collect?).getD ⟨lane.task.sink.snapshot, lane.task.failure⟩

/-- Both captures, once both drains have ended. -/
def captures (s : Session σ) : Option (Captured × Captured) × Session σ :=
  (s.drains.collect?, s)

/-- Both captures, waited for until the deadline. -/
def collectUntil (m : Machine σ) (deadline : Instant) (s : Session σ) :
    (Captured × Captured) × Session σ :=
  let (both, s) := s.await m deadline captures
  (both.getD (captureSoFar s.drains.stdout, captureSoFar s.drains.stderr), s)

def answer (m : Machine σ) (s : Session σ) : (r : Request) → r.Answer × Session σ
  | .wallClock => (m.wallClock s.world, s)
  | .clock => (m.clock s.world, s)
  | .launch path =>
    match m.launch path s.world with
    | (.error cause, world) => (.error cause, { s with world := world })
    | (.ok pid, world) => (.ok (some pid), { s with world := world, child := some pid })
  | .exitOrDeadline deadline => s.await m deadline (reap m)
  | .exitUntil deadline => ((), (s.await m deadline (reap m)).2)
  | .exitWithin span => ((), (s.await m (s.fromNow m span) (reap m)).2)
  | .groupOf process => (m.groupOf process s.world, s)
  | .ownGroup => (m.ownGroup s.world, s)
  | .signal group sig =>
    let (result, world) := m.signal group sig s.world
    (result, { s with world := world })
  | .probe group => (m.probe group s.world, s)
  | .killChild =>
    match s.child with
    | none => ((), s)
    | some pid =>
      if s.exit.isSome then ((), s) else ((), { s with world := m.killProcess pid s.world })
  | .pause span =>
    let idle (s : Session σ) : Option Unit × Session σ := (none, s)
    ((), (s.await m (s.fromNow m span) idle).2)
  | .joinUntil deadline =>
    let (joined, s) := s.await m deadline join
    (joined.isSome, s)
  | .stopDrains =>
    let s := { s with drains := s.drains.requestStop }.settle m
    ((), s.join.2)
  | .collect => s.collectUntil m (s.fromNow m patience)

def execute {α : Type} (m : Machine σ) : Program α → Session σ → Except Crash α × Session σ
  | .done a, s => (.ok a, s)
  | .crash reason, s => (.error reason, s)
  | .ask r next, s =>
    let (a, s) := s.answer m r
    execute m (next a) s

end Session

end Curfew.Supervisor
