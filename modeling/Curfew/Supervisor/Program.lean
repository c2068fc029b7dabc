import Curfew.Capture.Drains
import Curfew.Outcome.Basic

/-!
# What a supervisor asks for

A supervisor only decides; clocks, processes, signals and drains belong to the world it runs in.
Everything that it asks of the world is a **`Request`** with a typed answer, and a **`Program`** is
a sequence of requests, each of which may depend on the answers before it. A program ends with a
result, or crashes.
-/

namespace Curfew.Supervisor

open Capture (Captured)

/-- The signals that a supervisor sends to a group. -/
inductive GroupSignal
  /-- Asks the processes to end. -/
  | terminate
  /-- Ends the processes. -/
  | kill
deriving DecidableEq, Repr

/-- What a supervisor can ask for. -/
inductive Request
  /-- The civil time. -/
  | wallClock
  /-- A reading of the monotonic clock. -/
  | clock
  /-- Starts the script as the leader of a new process group, with both streams captured. -/
  | launch (path : String)
  /-- Waits for the exit of the child or the deadline, whichever is first. -/
  | exitOrDeadline (deadline : Instant)
  /-- Waits for the exit of the child, until an instant at most. -/
  | exitUntil (deadline : Instant)
  /-- Waits for the exit of the child, for a span at most. -/
  | exitWithin (span : Duration)
  /-- The process group of a process. -/
  | groupOf (process : Int)
  /-- The process group of the supervisor. -/
  | ownGroup
  /-- Signals every process of a group. -/
  | signal (group : Int) (s : GroupSignal)
  /-- Finds out whether a group could be signalled, without signalling it. -/
  | probe (group : Int)
  /-- Kills the child alone. -/
  | killChild
  /-- Lets a span of time pass. -/
  | pause (span : Duration)
  /-- Waits for both drains, until an instant at most; whether both have ended. -/
  | joinUntil (deadline : Instant)
  /-- Tells both drains to stop, and waits for them. -/
  | stopDrains
  /-- Takes over both captures. -/
  | collect
deriving DecidableEq, Repr

@[reducible] def Request.Answer : Request → Type
  | .wallClock => Timestamp
  | .clock => Instant
  | .launch _ => Except IoError (Option Nat)
  | .exitOrDeadline _ => Option (Except IoError Int32)
  | .exitUntil _ => Unit
  | .exitWithin _ => Unit
  | .groupOf _ => Except Errno Int
  | .ownGroup => Int
  | .signal _ _ => Except Errno Unit
  | .probe _ => Except Errno Unit
  | .killChild => Unit
  | .pause _ => Unit
  | .joinUntil _ => Bool
  | .stopDrains => Unit
  | .collect => Captured × Captured

/-- Why a program crashes. -/
inductive Crash
  /-- An instant lies beyond what can be represented. -/
  | instantOverflow
  /-- The clock did not move on over a pause. -/
  | clockStuck
deriving DecidableEq, Repr

/-- The text of a crash. -/
def Crash.message : Crash → String
  | .instantOverflow => "overflow when adding duration to instant"
  | .clockStuck => "the clock did not move on"

/-- A sequence of requests that ends with an `α`, or crashes. -/
inductive Program (α : Type)
  | done (result : α)
  | ask (r : Request) (next : r.Answer → Program α)
  | crash (reason : Crash)

namespace Program

/-- One program after the other. -/
def bind {α β : Type} : Program α → (α → Program β) → Program β
  | .done a, f => f a
  | .ask r next, f => .ask r fun answer => (next answer).bind f
  | .crash reason, _ => .crash reason

instance : Monad Program where
  pure := .done
  bind := Program.bind

/-- Asks once. -/
def request (r : Request) : Program r.Answer := .ask r .done

/-- Nothing comes of doing nothing first. -/
@[simp] theorem done_bind {α β : Type} (a : α) (f : α → Program β) : (done a).bind f = f a := rfl

/-- Doing nothing afterwards changes nothing. -/
@[simp] theorem bind_done {α : Type} (p : Program α) : p.bind done = p := by
  induction p with
  | done a => rfl
  | ask r next ih => simp [bind, ih]
  | crash reason => rfl

theorem bind_assoc {α β γ : Type} (p : Program α) (f : α → Program β) (g : β → Program γ) :
    (p.bind f).bind g = p.bind fun a => (f a).bind g := by
  induction p with
  | done a => rfl
  | ask r next ih => simp [bind, ih]
  | crash reason => rfl

/-! ## Single requests -/

def wallClock : Program Timestamp := request .wallClock

def clock : Program Instant := request .clock

def launch (path : String) : Program (Except IoError (Option Nat)) := request (.launch path)

/-- Waits for the exit of the child or the deadline, whichever is first. -/
def exitOrDeadline (deadline : Instant) : Program (Option (Except IoError Int32)) :=
  request (.exitOrDeadline deadline)

/-- Waits for the exit of the child, until an instant at most. -/
def exitUntil (deadline : Instant) : Program Unit := request (.exitUntil deadline)

/-- Waits for the exit of the child, for a span at most. -/
def exitWithin (span : Duration) : Program Unit := request (.exitWithin span)

def groupOf (process : Int) : Program (Except Errno Int) := request (.groupOf process)

def ownGroup : Program Int := request .ownGroup

def signal (group : Int) (s : GroupSignal) : Program (Except Errno Unit) :=
  request (.signal group s)

/-- Finds out whether a group could be signalled. -/
def probe (group : Int) : Program (Except Errno Unit) := request (.probe group)

def killChild : Program Unit := request .killChild

def pause (span : Duration) : Program Unit := request (.pause span)

/-- Waits for both drains, until an instant at most; whether both have ended. -/
def joinUntil (deadline : Instant) : Program Bool := request (.joinUntil deadline)

/-- Tells both drains to stop, and waits for them. -/
def stopDrains : Program Unit := request .stopDrains

def collect : Program (Captured × Captured) := request .collect

/-- The instant a span after another; a crash where there is none. -/
def later (t : Instant) (d : Duration) : Program Instant :=
  match t.add? d with
  | some sum => .done sum
  | none => .crash .instantOverflow

end Program

end Curfew.Supervisor
