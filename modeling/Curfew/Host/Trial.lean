import Curfew.Host.Installation
import Curfew.Host.Machine

/-!
# Trials

A **trial** lets a supervisor act in a world of processes and looks at what has become of both.

* **`Trial.run`** supervises a script and looks for processes that it leaves behind.
* **`Trial.killGroup`**, **`Trial.groupOutlives`** and **`Trial.expire`** try single decisions of a
  supervisor on a child that a shell runs.
-/

namespace Curfew.Host.Trial

open Text (Raw)
open Supervisor (Crash Program Session)
open Capture (Captured Destination)

/-- A world with a child and its drains. -/
abbrev Stage := Session World

/-- A stage before anything is launched; the streams go nowhere. -/
def quiet (world : World) : Stage :=
  .start world (.ofBehaviour .obliging) (.ofBehaviour .obliging)

def linger (s : Stage) (span : Duration) : Stage := (s.execute machine (Program.pause span)).2

/-- Waits for the exit of the child. -/
def waitForChild (s : Stage) : Stage :=
  (s.await machine (s.fromNow machine Session.patience) (Session.reap machine)).2

def childStatus (s : Stage) : Option RunStatus := s.exit.map .ofWaited

/-- Starts a child that carries out commands; its number. -/
def startShell (s : Stage) (script : Bytes) (leads captured : Bool) : Option Nat × Stage :=
  let command := Bytes.ofString "/bin/sh"
  let args := ["/bin/sh", "-c", Raw.ofBytes script]
  match s.world.spawn ⟨command, args, leads, captured⟩ with
  | (.error _, world) => (none, { s with world := world })
  | (.ok pid, world) => (some pid, { s with world := world, child := some pid })

/-! ## Whole runs -/

structure RunView where
  outcome : Outcome
  /-- Whether the run took as long as its budget. -/
  reachedDeadline : Bool
  /-- Whether the script's group still had a process that had not ended a while later. -/
  survivors : Bool
  out : Bytes
  err : Bytes

/-- How long after a run its group is looked at. -/
def afterlife : Duration := .ofMillis 150

/-- Whether a group keeps a process that has not ended for a while. -/
def outlasts (s : Stage) (group : Nat) : Bool :=
  let check (s : Stage) : Option Unit × Stage :=
    (if s.world.isPopulated group then none else some (), s)
  (s.await machine (s.fromNow machine afterlife) check).1.isNone

def run (world : World) (limits : Limits) (script : String) (out err : Destination) :
    Except Crash RunView :=
  match supervise world limits script out err with
  | (.error crash, _) => .error crash
  | (.ok outcome, s) =>
    .ok {
      outcome := outcome
      reachedDeadline := limits.timeout.nanos ≤ outcome.duration.nanos
      survivors := match s.child with
        | some group => outlasts s group
        | none => false
      out := s.drains.stdout.task.sink.destination.contents
      err := s.drains.stderr.task.sink.destination.contents }

/-! ## Single decisions -/

inductive Subject
  | self
  | child
  /-- A child in the supervisor's own group. -/
  | sharing
  /-- A child that was waited for already. -/
  | reaped
  /-- A child that was waited for already, and whose number is forgotten. -/
  | unknown
  | number (pid : Nat)
deriving DecidableEq, Repr

namespace Subject

/-- Whether a child's group is its own. -/
def leads : Subject → Bool
  | .sharing => false
  | _ => true

/-- Whether the child is waited for first. -/
def isWaitedFor : Subject → Bool
  | .reaped => true
  | .unknown => true
  | _ => false

/-- The number that is acted on, if the child has the number `child`. -/
def target (child : Option Nat) : Subject → Option Nat
  | .self => some World.ownProcess
  | .unknown => none
  | .number pid => some pid
  | .child => child
  | .sharing => child
  | .reaped => child

end Subject

/-- A stage with the child that a subject calls for, a while after its start; and the number of the
child. -/
def prepare (s : Stage) (subject : Subject) (script : Option Bytes) (captured : Bool)
    (delay : Duration) : Option Nat × Stage :=
  match script with
  | none => (none, linger s delay)
  | some script =>
    let (child, s) := startShell s script subject.leads captured
    (child, linger (if subject.isWaitedFor then waitForChild s else s) delay)

/-- What is seen of an attempt to end a group. -/
structure KillView where
  result : Except RunError Int
  child : Option Nat
  /-- How the child ended, unless that was waited for before. -/
  status : Option RunStatus

/-- Tries to end the group of a subject. A child that is not asked to end is killed. -/
def killGroup (world : World) (subject : Subject) (script : Option Bytes) (delay : Duration) :
    Except Crash KillView := do
  let (child, s) := prepare (quiet world) subject script false delay
  let (result, s) := s.execute machine (Supervisor.killGroup ((subject.target child).getD 0))
  let result ← result
  let s := match result, child with
    | .error _, some pid => { s with world := World.killProcess pid s.world }
    | _, _ => s
  let status := if subject.isWaitedFor then none else childStatus (waitForChild s)
  return ⟨result, child, status⟩

/-- The state of a group whose lifetime is looked at. -/
inductive GroupState
  | live
  /-- Its only process has ended, and was not waited for. -/
  | zombie
  | reaped
deriving DecidableEq, Repr

/-- Whether a group can still be signalled after a while. -/
def groupOutlives (world : World) (state : GroupState) (span : Duration) : Except Crash Bool :=
  let script := Bytes.ofString (if state = .live then "exec sleep 5" else "exit 0")
  let subject : Subject := if state = .reaped then .reaped else .child
  let (child, s) := prepare (quiet world) subject (some script) false (.ofMillis 100)
  let program : Program Bool := do
    let now ← Program.clock
    let deadline ← Program.later now span
    Supervisor.groupOutlives (child.getD 0) deadline
  (s.execute machine program).1

/-- What is seen of an expired deadline. -/
structure ExpiryView where
  status : RunStatus
  child : Option Nat
  childStatus : Option RunStatus
  stdout : Captured
  stderr : Captured
  out : Bytes
  err : Bytes

/-- Lets the deadline of a child expire, a while after its start. -/
def expire (world : World) (limits : Limits) (subject : Subject) (script : Bytes)
    (delay : Duration) (out err : Destination) : Except Crash ExpiryView := do
  let (child, s) := prepare (.start world out err) subject (some script) true delay
  let program : Program (RunStatus × Captured × Captured) := do
    let status ← Supervisor.expire limits (subject.target child)
    let (stdout, stderr) ← Program.collect
    return (status.resolve stdout.failure stderr.failure, stdout, stderr)
  let (result, s) := s.execute machine program
  let (status, stdout, stderr) ← result
  return {
    status := status
    child := child
    childStatus := childStatus (waitForChild s)
    stdout := stdout
    stderr := stderr
    out := s.drains.stdout.task.sink.destination.contents
    err := s.drains.stderr.task.sink.destination.contents }

end Curfew.Host.Trial
