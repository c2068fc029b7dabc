import Curfew.Script.Path
import Curfew.Settings.Basic
import Curfew.Supervisor.Program

/-!
# Supervising a run

* **`killGroup`** finds the group of a process and asks it to end, unless it is the supervisor's
  own.
* **`groupOutlives`** polls a group until an instant, or until it is gone.
* **`expire`** is what follows a deadline that passed: the group is asked to end, and killed if it
  outlives the grace period.
* **`run`** supervises a script from its launch to its outcome.
-/

namespace Curfew.Supervisor

open Program

/-- The time between two probes of a group. -/
def pollInterval : Duration := .ofMillis 10

/-- A process number as the system takes it: a signed word of 32 bits. -/
def processNumber (pid : Nat) : Int := Int.bmod pid 4294967296

/-- Finds the group of a process and asks all of it to end. The supervisor's own group is never
signalled. -/
def killGroup (pid : Nat) : Program (Except RunError Int) := do
  let child := processNumber pid
  match ← groupOf child with
  | .error cause => return .error (.timeoutKill child cause)
  | .ok group =>
    let own ← ownGroup
    if group = own then return .error (.timeoutKill group .notPermitted)
    else
      match ← signal group .terminate with
      | .error cause => return .error (.timeoutKill group cause)
      | .ok () => return .ok group

inductive Poll
  /-- The group can no longer be signalled. -/
  | gone
  /-- The group can still be signalled, and the time is up. -/
  | outlived
  | timeLeft (span : Duration)
deriving DecidableEq, Repr

/-- One round of polling: a probe, and a pause where there is time left. The pause never goes past
the deadline, even if the clock has moved on since the time was looked at. -/
def pollOnce (group : Int) (deadline : Instant) : Program Poll := do
  match ← probe group with
  | .error _ => return .gone
  | .ok () =>
    let now ← clock
    if now.reached deadline then return .outlived
    else
      let again ← clock
      pause (pollInterval.min (deadline.since again))
      return .timeLeft (deadline.since now)

/-- At most `fuel` further rounds. -/
def pollOn (group : Int) (deadline : Instant) : Nat → Program Bool
  | 0 => .crash .clockStuck
  | fuel + 1 => do
    match ← pollOnce group deadline with
    | .gone => return false
    | .outlived => return true
    | .timeLeft _ => pollOn group deadline fuel

/-- The number of rounds that follow a first one with so much time left: one at the end of every
interval begun. -/
def roundsWithin (span : Duration) : Nat :=
  (span.nanos + (pollInterval.nanos - 1)) / pollInterval.nanos

/-- Whether any process of a group can still be signalled at `deadline`. A clock that moves on over
every pause by what was asked keeps to the number of rounds. -/
def groupOutlives (group : Int) (deadline : Instant) : Program Bool := do
  match ← pollOnce group deadline with
  | .gone => return false
  | .outlived => return true
  | .timeLeft span => pollOn group deadline (roundsWithin span)

/-- Kills what is left of a group. -/
def escalate (group : Int) (killGrace : Duration) : Program Unit := do
  let _ ← signal group .kill
  exitWithin killGrace

/-- The deadline has passed: ends the group, reaps the child and winds up the drains. A child
without a number was reaped before. -/
def expire (limits : Limits) (pid : Option Nat) : Program RunStatus := do
  match pid with
  | none => return .failed (.timeoutKill 0 .noProcess)
  | some pid =>
    match ← killGroup pid with
    | .error failure =>
      killChild
      stopDrains
      return .failed failure
    | .ok group =>
      let now ← clock
      let graceEnd ← later now limits.killGrace
      exitUntil graceEnd
      if limits.escalate then
        if ← groupOutlives group graceEnd then escalate group limits.killGrace
      let now ← clock
      let drainEnd ← later now limits.killGrace
      unless ← joinUntil drainEnd do stopDrains
      return .timedOut limits.timeout

/-- The child has exited: what still holds its pipes open at the deadline is killed, and the drains
are stopped. -/
def windUp (pid : Option Nat) (deadline : Instant) : Program Unit := do
  unless ← joinUntil deadline do
    match pid with
    | some pid =>
      let _ ← signal (processNumber pid) .kill
    | none => pure ()
    stopDrains

/-- The outcome of a script that was not started. -/
def notLaunched (path : Bytes) (cause : IoError) (startedAt : Timestamp) (start : Instant) :
    Program Outcome := do
  let now ← clock
  return {
    stdout := []
    stderr := []
    status := .failed (.launch path cause)
    pid := none
    duration := now.since start
    startedAt := startedAt }

/-- The outcome of a script that was started, once its status is known. -/
def conclude (status : RunStatus) (pid : Option Nat) (startedAt : Timestamp) (start : Instant) :
    Program Outcome := do
  let (out, err) ← collect
  let now ← clock
  return {
    stdout := out.bytes
    stderr := err.bytes
    status := status.resolve out.failure err.failure
    pid := pid
    duration := now.since start
    startedAt := startedAt }

def run (limits : Limits) (script : String) : Program Outcome := do
  let startedAt ← wallClock
  let start ← clock
  match Script.normalize script with
  | none =>
    notLaunched (Bytes.ofString script) (.custom .invalidInput "empty script path") startedAt start
  | some path =>
    match ← launch path with
    | .error cause => notLaunched (Bytes.ofString path) cause startedAt start
    | .ok pid =>
      let deadline ← later start limits.timeout
      match ← exitOrDeadline deadline with
      | some waited =>
        windUp pid deadline
        conclude (.ofWaited waited) pid startedAt start
      | none =>
        let status ← expire limits pid
        conclude status pid startedAt start

end Curfew.Supervisor
