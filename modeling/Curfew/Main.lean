import Curfew.CommandLine.Command
import Curfew.Host.Installation

/-!
# The command

The entry point. The script and the settings file that the command line names are taken over into a
world of their own, under the same paths, and the command is carried out there.
-/

namespace Curfew

/-- The directory that the command works in. -/
def workPlace : Host.Place := Host.Installation.at_ "/work"

/-- The bytes of a file outside, if it can be read. -/
def outsideFile? (path : String) : IO (Option Bytes) := do
  try
    let bytes ← IO.FS.readBinFile path
    return some bytes.toList
  catch _ => return none

/-- The places on the way to a place, itself not included. -/
def placesAbove (place : Host.Place) : List Host.Place :=
  (List.range place.length).map fun n => place.take n

def takeOver (files : Host.Files) (path : String) : IO Host.Files := do
  match ← outsideFile? path with
  | none => return files
  | some body =>
    let names := Host.Files.names (Bytes.ofString path)
    let place := if path.startsWith "/" then names else workPlace ++ names
    let files := (placesAbove place).foldl
      (fun files p => if (files.find? p).isSome then files else files.put p .directory) files
    return if (files.find? place).isSome then files else files.put place (.file body 0o755)

/-- The world that a command line is carried out in. -/
def worldFor (words : List String) : IO Host.World := do
  let base := Host.Installation.files.put workPlace .directory
  let files ← match CommandLine.Arguments.read words with
    | .error _ => pure base
    | .ok a => takeOver (← takeOver base a.config) (Text.trim a.script)
  return .start files Host.Installation.environment workPlace

/-- What is said of a settings file that is no document. -/
def plainWording (_text : String) : String := "TOML parse error"

end Curfew

def main (words : List String) : IO UInt32 := do
  let world ← Curfew.worldFor words
  let (result, _) := Curfew.CommandLine.Command.execute Curfew.plainWording world words
  let stdout ← IO.getStdout
  let stderr ← IO.getStderr
  stdout.write ⟨result.stdout.toArray⟩
  stdout.flush
  stderr.write ⟨result.stderr.toArray⟩
  return UInt32.ofNat (result.code % 256).toNat
