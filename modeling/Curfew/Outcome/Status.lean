import Curfew.Bytes
import Curfew.IoError.Basic
import Curfew.Text.Utf8
import Curfew.Time.Duration

/-!
# How a run ends

* **`Stream`**: the two output streams of a script.
* **`RunError`**: the four failures that end a run without a result, and their texts.
* **`RunStatus`**: success, an execution error, a timeout, or a failure.
* **`RunStatus.ofWaitStatus`** reads a raw wait status; **`RunStatus.resolve`** picks the status to
  report once both captures are in.
-/

namespace Curfew

inductive Stream
  | stdout
  | stderr
deriving DecidableEq, Repr

def Stream.name : Stream → String
  | .stdout => "stdout"
  | .stderr => "stderr"

/-- A failure that ends a run without a normal or timed-out result. -/
inductive RunError
  /-- The script could not be started at all. -/
  | launch (path : Bytes) (cause : IoError)
  /-- The deadline passed but the process group could not be signalled. -/
  | timeoutKill (group : Int) (cause : Errno)
  /-- The script started but its exit could not be observed. -/
  | wait (cause : IoError)
  /-- Draining or forwarding one of the streams failed. -/
  | capture (stream : Stream) (cause : IoError)
deriving DecidableEq, Repr

namespace RunError

/-- The text of what caused a failure. -/
def causeText : RunError → String
  | .launch _ cause => cause.message
  | .timeoutKill _ cause => cause.signalText
  | .wait cause => cause.message
  | .capture _ cause => cause.message

/-- What a failure says before its cause. -/
def headline : RunError → String
  | .launch path _ => "failed to launch " ++ Text.Utf8.decodeLossy path
  | .timeoutKill group _ =>
    "deadline reached but process group " ++ toString group ++ " could not be killed"
  | .wait _ => "failed to wait for script exit"
  | .capture stream _ => "failed to capture " ++ stream.name

/-- The text of a failure, its cause included. -/
def message (e : RunError) : String := e.headline ++ ": " ++ e.causeText

end RunError

/-- The ends of a run, no two of which hold together. -/
inductive RunStatus
  /-- The script exited with code 0 before the deadline. -/
  | success
  /-- The script exited before the deadline with another code, or by a signal. -/
  | executionError (code signal : Option Int)
  /-- The script overran the deadline and its process group was signalled. -/
  | timedOut (timeout : Duration)
  | failed (error : RunError)
deriving DecidableEq, Repr

namespace RunStatus

/-- Reads a raw wait status. Zero is success. Otherwise the low seven bits decide: 0 is an exit
with the code in bits 8 to 15, 127 a process that is only stopped, and anything else the signal
that ended the process. -/
def ofWaitStatus (raw : Int32) : RunStatus :=
  let word := raw.toInt
  if word = 0 then .success
  else if word % 128 = 0 then .executionError (some (word / 256 % 256)) none
  else if word % 128 = 127 then .executionError none none
  else .executionError none (some (word % 128))

/-- The status of a script whose exit was waited for. -/
def ofWaited : Except IoError Int32 → RunStatus
  | .ok raw => ofWaitStatus raw
  | .error cause => .failed (.wait cause)

/-- The status to report once both captures are in. Failures and execution errors stand; over
success and timeout a capture error wins, that of stdout before that of stderr. -/
def resolve (status : RunStatus) (stdoutError stderrError : Option IoError) : RunStatus :=
  match status with
  | .failed _ => status
  | .executionError _ _ => status
  | .success | .timedOut _ =>
    match stdoutError, stderrError with
    | some cause, _ => .failed (.capture .stdout cause)
    | none, some cause => .failed (.capture .stderr cause)
    | none, none => status

/-- The failure behind a status, if the run failed. -/
def error? : RunStatus → Option RunError
  | .failed error => some error
  | _ => none

/-- Whether the script exited with code 0 in time. -/
def isSuccess : RunStatus → Bool
  | .success => true
  | _ => false

/-- Whether the script overran its deadline and was signalled. -/
def isTimedOut : RunStatus → Bool
  | .timedOut _ => true
  | _ => false

end RunStatus

end Curfew
