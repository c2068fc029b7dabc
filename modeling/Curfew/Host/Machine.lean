import Curfew.Host.Step
import Curfew.Supervisor.Run
import Curfew.Supervisor.Session

/-!
# A world to supervise in

The supervisor's own operations on a **`World`**: starting programs (**`World.spawn`**), looking
after its children, and signalling groups. **`machine`** offers them to the programs of a
supervisor, and **`supervise`** runs a script there.
-/

namespace Curfew.Host

open Text (Raw)

/-- How a child is to be started. -/
structure Spawn where
  command : Bytes
  args : List Raw
  /-- Whether it leads a group of its own. -/
  leads : Bool
  /-- Whether the supervisor reads what it writes. -/
  captured : Bool

namespace World

/-- The nanoseconds that starting a program takes. -/
def spawnCost : Nat := 500000

/-- The failure to start a program whose path holds a zero byte. -/
def zeroInPath : IoError := .custom .invalidInput "nul byte found in provided data"

/-- The value of a variable in the supervisor's environment. -/
def environmentGet? (w : World) (name : Raw) : Option Raw :=
  (w.environment.find? fun entry => entry.1 == name).map Prod.snd

/-- Opens a pipe that the supervisor reads; the number of the pipe, and the file to write to. -/
def capture (w : World) : Nat × Nat × World :=
  let (pipe, w) := w.makePipe
  let (id, w) := w.openFile (.writeEnd pipe)
  (pipe, id, w)

/-- Starts a program as a child of the supervisor; its number. It reads nothing. -/
def spawn (w : World) (s : Spawn) : Except IoError Nat × World :=
  if s.command.contains 0 then (.error zeroInPath, w)
  else
    let searchPath := Raw.bytes ((w.environmentGet? "PATH").getD defaultSearchPath)
    match loadCommand w.files w.cwd searchPath s.command s.args with
    | .error e => (.error (.system e), w)
    | .ok (_, name, args) =>
      let (input, w) := w.openFile (.device .null)
      let (descriptors, w) : List (Nat × Nat) × World :=
        if s.captured then
          let (outPipe, out, w) := w.capture
          let (errPipe, err, w) := w.capture
          ([(0, input), (1, out), (2, err)],
            { w with stdout := some outPipe, stderr := some errPipe })
        else ([(0, input), (1, input), (2, input)], w)
      let pid := w.last + 1
      let w := { w with last := pid, now := ⟨w.now.nanos + spawnCost⟩ }
      let image := Image.start name pid ownProcess args w.environment
      (.ok pid,
        w.arm pid {
          parent := ownProcess
          group := if s.leads then pid else ownProcess
          session := ownProcess
          life := .running
          image := image
          call := .compute
          due := 0
          descriptors := ⟨descriptors⟩
          saved := []
          cwd := w.cwd
          deaf := []
          ignored := []
          caught := []
          held := [] })

/-- Starts a script: as the leader of a group of its own, with both streams captured. -/
def launch (path : String) (w : World) : Except IoError Nat × World :=
  w.spawn ⟨Bytes.ofString path, [Raw.ofString path], true, true⟩

/-- The exit of a child, once. -/
def reap (pid : Nat) (w : World) : Option (Except IoError Int32) × World :=
  match w.processes.get? pid with
  | none => (some (.error (.system .noChild)), w)
  | some p =>
    match p.life with
    | .ended raw =>
      (some (.ok (Int32.ofNat raw)), { w with processes := w.processes.erase pid })
    | _ => (none, w)

/-- The group of a process; 0 stands for the supervisor. -/
def groupOf (process : Int) (w : World) : Except Errno Int :=
  if process = 0 || process = ownProcess then .ok ownProcess
  else
    match (if 0 < process then w.processes.get? process.toNat else none) with
    | some p => .ok p.group
    | none => .error .noProcess

/-- Whether a group has any process, the supervisor and those that have ended included. -/
def probe (group : Int) (w : World) : Except Errno Unit :=
  if group = ownProcess || (0 < group && !(w.members group.toNat).isEmpty) then .ok ()
  else .error .noProcess

/-- The number of a signal for a group. -/
def numberOf : Supervisor.GroupSignal → Signal
  | .terminate => Signal.term
  | .kill => Signal.kill

def signal (group : Int) (s : Supervisor.GroupSignal) (w : World) : Except Errno Unit × World :=
  match probe group w with
  | .error e => (.error e, w)
  | .ok () => (.ok (), w.deliver ((w.members group.toNat).map fun n => (n, numberOf s)))

def killProcess (pid : Nat) (w : World) : World := w.deliver [(pid, Signal.kill)]

def pipeOf (w : World) : Stream → Option Nat
  | .stdout => w.stdout
  | .stderr => w.stderr

/-- Reads from the pipe of a stream. -/
def read (stream : Stream) (w : World) : Capture.ReadReply × World :=
  match w.pipeOf stream with
  | none => (.closed, w)
  | some pipe =>
    let buffer := (w.pipes.get? pipe).getD .empty
    if buffer.size = 0 then (if w.hasWriter pipe then .stalled else .closed, w)
    else
      let (bytes, buffer) := buffer.take Capture.chunkSize
      (.data bytes, { w with pipes := w.pipes.set pipe buffer })

/-- Reads no more from the pipe of a stream. -/
def hangUp (stream : Stream) (w : World) : World :=
  match w.pipeOf stream, stream with
  | none, _ => w
  | some _, .stdout => { w with stdout := none }.sweep
  | some _, .stderr => { w with stderr := none }.sweep

/-- Whether a group has a process that has not ended. -/
def isPopulated (w : World) (group : Nat) : Bool :=
  w.processes.values.any fun p => p.group == group && !hasEnded p

end World

/-- A world as a machine to supervise on. -/
def machine : Supervisor.Machine World where
  wallClock w := w.wallClock
  clock w := w.now
  launch := World.launch
  reap := World.reap
  groupOf := World.groupOf
  ownGroup _ := World.ownProcess
  signal := World.signal
  probe := World.probe
  killProcess := World.killProcess
  read := World.read
  hangUp := World.hangUp
  proceed := World.proceed
  steps := Capture.Drain.ample

/-- Runs a script in a world under time limits, its output being forwarded. -/
def supervise (world : World) (limits : Limits) (script : String)
    (out err : Capture.Destination) :
    Except Supervisor.Crash Outcome × Supervisor.Session World :=
  (Supervisor.Session.start world out err).execute machine (Supervisor.run limits script)

end Curfew.Host
