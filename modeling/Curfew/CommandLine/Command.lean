import Curfew.CommandLine.Report
import Curfew.Host.Machine

/-!
# The command at work

**`Command.execute`** carries out a command line in a world: it reads the settings file, runs the
script where that is asked for, and puts together what is printed. The script's own output comes
between the opening and the closing. The world that is left is the one the script has made of it.

The log is no part of what is printed: commands are carried out with it turned off, as the
environment of a command can ask for, whatever `--verbose` says.
-/

namespace Curfew.CommandLine

/-- What a command and its script have written, and the exit code. -/
structure Transcript where
  stdout : Bytes
  /-- What the command reports itself and what its script has written, and no line of a log. -/
  stderr : Bytes
  code : Int

/-- What a report alone leaves behind. -/
def Report.transcript (r : Report) : Transcript :=
  ⟨Bytes.ofString r.stdout, Bytes.ofString r.stderr, r.code⟩

namespace Command

def sink : Capture.Destination := .ofBehaviour .obliging

/-- What a stream of a session has taken. -/
def taken (lane : Capture.Lane) : Bytes := lane.task.sink.destination.contents

/-- Runs the script of a command; the transcript, and the world that is left. -/
def runScript (world : Host.World) (a : Arguments) (limits : Limits) :
    Transcript × Host.World :=
  let opening := Bytes.ofString (opening a limits)
  match Host.supervise world limits a.script sink sink with
  | (.error crash, s) =>
    (⟨opening ++ taken s.drains.stdout,
      taken s.drains.stderr ++ Bytes.ofString (line crash.message), crashCode⟩, s.world)
  | (.ok outcome, s) =>
    let closing := closing a limits outcome
    (⟨opening ++ taken s.drains.stdout ++ Bytes.ofString closing.stdout,
      taken s.drains.stderr ++ Bytes.ofString closing.stderr, closing.code⟩, s.world)

/-- Carries out a command line; the transcript, and the world that is left. `wording` is what the
reader of settings files says of a malformed one. -/
def execute (wording : String → String) (world : Host.World) (words : List String) :
    Transcript × Host.World :=
  match Arguments.read words with
  | .error stop => (stop.report.transcript, world)
  | .ok a =>
    let path := Bytes.ofString a.config
    match Plan.of a (Settings.load wording path (world.files.readAll world.cwd path)) with
    | .refuse cause => ((refusal cause).transcript, world)
    | .describe settings => ((description a settings).transcript, world)
    | .supervise limits => runScript world a limits

end Command

end Curfew.CommandLine
