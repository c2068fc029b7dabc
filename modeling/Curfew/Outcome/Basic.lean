import Curfew.Outcome.Status
import Curfew.Text.Json
import Curfew.Time.Timestamp

/-!
# The outcome of a run, and its views

An **`Outcome`** is the one result of a supervised run: the captured bytes and the status. Two
views leave the captured bytes behind: the **`exitCode`** that a wrapper reports, and the
**`Summary`**, which is written as JSON by `Summary.render`.
-/

namespace Curfew

/-- Captured output and resolved status of one supervised run. -/
structure Outcome where
  stdout : Bytes
  stderr : Bytes
  status : RunStatus
  /-- The id of the child process; `none` where the launch failed. -/
  pid : Option Nat
  duration : Duration
  startedAt : Timestamp

/-- Exit codes that stand for the ends of a run other than the script's own exit. -/
structure ExitCodes where
  waitFailed : Int
  timedOut : Int
  killFailed : Int
  captureFailed : Int
  launchFailed : Int

def exitCodes : ExitCodes := ⟨1, 124, 125, 126, 127⟩

/-- The status of a run in one word, with the code or signal that goes with it. -/
structure Summary where
  status : String
  exitCode : Option Int
  signal : Option Int
  error : Option String
  pid : Option Nat
  startedAt : Timestamp
  durationMillis : Nat
  stdoutBytes : Nat
  stderrBytes : Nat
deriving DecidableEq, Repr

namespace RunStatus

/-- The exit code that a wrapper reports for a status. -/
def exitCode : RunStatus → Int
  | .success => 0
  | .executionError (some code) _ => code
  | .executionError none (some signal) => 128 + signal
  | .executionError none none => 1
  | .timedOut _ => exitCodes.timedOut
  | .failed (.timeoutKill _ _) => exitCodes.killFailed
  | .failed (.wait _) => exitCodes.waitFailed
  | .failed (.capture _ _) => exitCodes.captureFailed
  | .failed (.launch _ _) => exitCodes.launchFailed

/-- The word for a status in a summary. -/
def word : RunStatus → String
  | .success => "success"
  | .executionError _ _ => "execution_error"
  | .timedOut _ => "timed_out"
  | .failed (.launch _ _) => "launch_error"
  | .failed (.timeoutKill _ _) => "timeout_kill_error"
  | .failed (.wait _) => "wait_error"
  | .failed (.capture _ _) => "capture_error"

/-- The exit code in a summary: that of the script itself. -/
def scriptCode : RunStatus → Option Int
  | .success => some 0
  | .executionError code _ => code
  | _ => none

/-- The signal in a summary: the one that ended the script. -/
def scriptSignal : RunStatus → Option Int
  | .executionError _ signal => signal
  | _ => none

end RunStatus

namespace Outcome

/-- Whether the script exited with code 0 in time. -/
def isSuccess (o : Outcome) : Bool := o.status.isSuccess

def isTimedOut (o : Outcome) : Bool := o.status.isTimedOut

/-- The failure, if the run failed. -/
def error? (o : Outcome) : Option RunError := o.status.error?

/-- The exit code that a wrapper reports. -/
def exitCode (o : Outcome) : Int := o.status.exitCode

def stdoutText (o : Outcome) : String := Text.Utf8.decodeLossy o.stdout

def stderrText (o : Outcome) : String := Text.Utf8.decodeLossy o.stderr

/-- The outcome without the captured bytes. Milliseconds are kept modulo 2^64. -/
def summary (o : Outcome) : Summary where
  status := o.status.word
  exitCode := o.status.scriptCode
  signal := o.status.scriptSignal
  error := o.error?.map RunError.message
  pid := o.pid
  startedAt := o.startedAt
  durationMillis := o.duration.millis % 18446744073709551616
  stdoutBytes := o.stdout.length
  stderrBytes := o.stderr.length

end Outcome

namespace Summary

/-- The members of a summary's JSON object, in order. -/
def members (s : Summary) : List (String × Text.Json.Scalar) :=
  [("status", .text s.status),
   ("exit_code", .ofNumber? s.exitCode),
   ("signal", .ofNumber? s.signal),
   ("error", .ofText? s.error),
   ("pid", .ofNumber? (s.pid.map Int.ofNat)),
   ("started_at", .text s.startedAt.render),
   ("duration_ms", .number s.durationMillis),
   ("stdout_bytes", .number s.stdoutBytes),
   ("stderr_bytes", .number s.stderrBytes)]

def render (s : Summary) : String := Text.Json.layout s.members

end Summary

end Curfew
