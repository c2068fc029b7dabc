import Curfew.Capture.Drain
import Curfew.Outcome.Status

/-!
# The two drains of a run

Each stream has a task that drains it and a **`Slot`** for what the task leaves behind. The task's
result comes through a **`Handle`**, which yields it once and must not be asked again; the slot
stores it at that moment, so that waiting can be broken off at any point and taken up later.

* **`Drains.join`** asks for both results once, stdout first.
* **`Drains.collect?`** hands over both captures.
-/

namespace Curfew.Capture

inductive Handle
  | pending
  | ready (result : DrainResult)
  | spent
deriving DecidableEq, Repr

inductive Polled
  | pending
  | ready (result : DrainResult)
  /-- The handle was asked again after it had yielded its result. -/
  | misused
deriving DecidableEq, Repr

def Handle.poll : Handle → Polled × Handle
  | .pending => (.pending, .pending)
  | .ready result => (.ready result, .spent)
  | .spent => (.misused, .spent)

def Handle.complete (result : DrainResult) : Handle → Handle
  | .pending => .ready result
  | handle => handle

/-- A task not waited for yet, or its result. -/
inductive Slot
  | running (handle : Handle)
  | done (result : DrainResult)
deriving DecidableEq, Repr

/-- The bytes and the failure of one stream. -/
structure Captured where
  bytes : Bytes
  failure : Option IoError
deriving DecidableEq, Repr

/-- What a crashed task leaves: no bytes, and a failure with what is said of the crash. -/
def Captured.crashed (report : String) : Captured := ⟨[], some (.custom .other report)⟩

def Captured.ofResult : DrainResult → Captured
  | .drained captured failure => ⟨captured, failure⟩
  | .crashed report => .crashed report

namespace Slot

/-- The task behind the slot has ended. -/
def complete (result : DrainResult) : Slot → Slot
  | .running handle => .running (handle.complete result)
  | .done earlier => .done earlier

/-- Asks for the result once; whether it is there now. -/
def finish : Slot → Bool × Slot
  | .running handle =>
    match handle.poll with
    | (.ready result, _) => (true, .done result)
    | (.pending, handle) => (false, .running handle)
    | (.misused, handle) => (false, .running handle)
  | .done result => (true, .done result)

/-- What the stream's task left, if it has ended. -/
def collect? : Slot → Option Captured
  | .running (.ready result) => some (.ofResult result)
  | .running .pending => none
  | .running .spent => none
  | .done result => some (.ofResult result)

def isDone : Slot → Bool
  | .running _ => false
  | .done _ => true

end Slot

/-- A stream's task and the slot for its result. -/
structure Lane where
  task : Drain
  slot : Slot

namespace Lane

def start (d : Destination) : Lane := ⟨.start d, .running .pending⟩

/-- A lane whose pipe was never captured. -/
def missing (d : Destination) : Lane := ⟨.missing d, .running .pending⟩

def noteEnd (l : Lane) : Lane :=
  match l.task.result? with
  | some result => { l with slot := l.slot.complete result }
  | none => l

/-- Lets the task run until it can do no more by itself. -/
def settle {σ : Type} (read : σ → ReadReply × σ) (stop : Bool) (fuel : Nat) (l : Lane) (s : σ) :
    Lane × σ :=
  let (task, s) := l.task.settle read stop fuel s
  ({ l with task := task }.noteEnd, s)

end Lane

/-- The lanes of stdout and stderr, and whether they were told to stop. -/
structure Drains where
  stdout : Lane
  stderr : Lane
  stop : Bool

namespace Drains

def start (out err : Destination) : Drains := ⟨.start out, .start err, false⟩

/-- Lets both tasks run until they can do no more by themselves; each reads its own stream. -/
def settle {σ : Type} (read : Stream → σ → ReadReply × σ) (fuel : Nat) (d : Drains) (s : σ) :
    Drains × σ :=
  let (stdout, s) := d.stdout.settle (read .stdout) d.stop fuel s
  let (stderr, s) := d.stderr.settle (read .stderr) d.stop fuel s
  ({ d with stdout := stdout, stderr := stderr }, s)

/-- Asks for both results once; stderr is asked only when stdout is in. -/
def join (d : Drains) : Bool × Drains :=
  match d.stdout.slot.finish with
  | (false, slot) => (false, { d with stdout := { d.stdout with slot := slot } })
  | (true, slot) =>
    let (joined, other) := d.stderr.slot.finish
    (joined,
      { d with
        stdout := { d.stdout with slot := slot }
        stderr := { d.stderr with slot := other } })

def requestStop (d : Drains) : Drains := { d with stop := true }

/-- Both captures, if both tasks have ended. -/
def collect? (d : Drains) : Option (Captured × Captured) :=
  match d.stdout.slot.collect?, d.stderr.slot.collect? with
  | some out, some err => some (out, err)
  | _, _ => none

end Drains

end Curfew.Capture
