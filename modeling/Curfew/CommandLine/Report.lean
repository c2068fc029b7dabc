import Curfew.CommandLine.Arguments
import Curfew.Outcome.Basic
import Curfew.Settings.Load
import Curfew.Text.WhiteSpace

/-!
# What the command does and says

* **`Plan.of`** decides from the arguments and the settings file whether a script is run.
* A **`Report`** is what is printed and the code that the command exits with: of a refusal
  (**`refusal`**), of a dry run (**`description`**), and, around the output of a script that is run,
  **`opening`** and **`closing`**.
-/

namespace Curfew.CommandLine

def commandName : String := "cmd-runner"

def commandVersion : String := "0.1.0"

/-- What is printed, and the exit code. -/
structure Report where
  stdout : String
  /-- The command's own report. A log goes to stderr as well, and is no part of it. -/
  stderr : String
  code : Int
deriving DecidableEq, Repr

/-- The exit code of a command that could not begin. -/
def usageCode : Int := 2

/-- The exit code of a command that crashed. -/
def crashCode : Int := 101

def line (text : String) : String := text ++ "\n"

/-- What is said instead of a run that the command line does not ask for. -/
def Stop.report : Stop → Report
  | .help => ⟨String.join (helpLines.map line), "", 0⟩
  | .version => ⟨line (commandName ++ " " ++ commandVersion), "", 0⟩
  | .misuse m => ⟨"", line ("error: " ++ m.message), usageCode⟩
where
  helpLines : List String := [
    "Run a script under a wall-clock deadline, mirroring and capturing its output",
    "",
    "Usage: " ++ commandName ++ " [OPTIONS] <SCRIPT>",
    "",
    "Arguments:",
    "  <SCRIPT>  Path to the executable script",
    "",
    "Options:",
    "  -t, --timeout <TIMEOUT>  " ++
      "Timeout in seconds, 0 or less means the 3s default (overrides config)",
    "  -c, --config <CONFIG>    Config file path [default: " ++ defaultConfig ++ "]",
    "      --json               Print a JSON summary of the outcome when done",
    "      --dry-run            Validate config and print resolved settings, don't run",
    "  -v, --verbose            Extra logging (spawn, kill and drain details)",
    "  -q, --quiet              Suppress start/finish banners, only errors",
    "  -h, --help               Print help",
    "  -V, --version            Print version"]

/-! ## Plans -/

/-- The settings that hold: those of the file, with the timeout of the command line in front. -/
def Arguments.settings (a : Arguments) (file : Settings) : Settings :=
  { file with timeoutSecs := a.timeout.getD file.timeoutSecs }

inductive Plan
  /-- The settings file is no good. -/
  | refuse (cause : SettingsError)
  /-- Only tell what would be done. -/
  | describe (settings : Settings)
  | supervise (limits : Limits)

/-- What is to be done, given what loading the settings file came to. -/
def Plan.of (a : Arguments) (loaded : Except SettingsError Settings) : Plan :=
  match loaded with
  | .error cause => .refuse cause
  | .ok file =>
    let settings := a.settings file
    if a.dryRun then .describe settings else .supervise (.ofSettings settings)

/-- A number of seconds, as it is shown. -/
def shownSeconds (limits : Limits) : String := toString limits.timeout.seconds

/-- The report where the settings file is no good. -/
def refusal (cause : SettingsError) : Report := ⟨"", line ("Error: " ++ cause.message), usageCode⟩

/-- The report of a dry run: the settings that would hold, and the script that would run. -/
def description (a : Arguments) (settings : Settings) : Report where
  stdout := String.join ([
    commandName ++ " v" ++ commandVersion,
    "Config file: " ++ a.config,
    "Script: " ++ Text.trim a.script,
    "Timeout: " ++ shownSeconds (.ofSettings settings) ++ "s",
    "Kill grace: " ++ toString settings.killGraceMillis.toNat ++ "ms",
    "Escalate to SIGKILL: " ++ toString settings.escalate].map line)
  stderr := ""
  code := 0

/-! ## Around a run -/

/-- The banner that is printed before a run. -/
def banner (a : Arguments) (limits : Limits) : String :=
  line "" ++ line "Starting the execution of the script: " ++
    line (Text.trim a.script ++ " with timeout: " ++ shownSeconds limits ++ "s")

/-- What is printed before a run. -/
def opening (a : Arguments) (limits : Limits) : String := if a.quiet then "" else banner a limits

/-- The notice of a run that went as it should, or that overran its deadline. -/
def notice (limits : Limits) : RunStatus → String
  | .success => line "Execution of the script finished successfully"
  | .timedOut _ => line ("Process killed as timeout(" ++ shownSeconds limits ++ ") reached")
  | .executionError _ _ => ""
  | .failed _ => ""

/-- The complaint about a run that went wrong. -/
def complaint : RunStatus → String
  | .success => ""
  | .timedOut _ => ""
  | .executionError (some code) _ =>
    line ("Error: process finished with exit code " ++ toString code)
  | .executionError none (some signal) =>
    line ("Error: process terminated by signal " ++ toString signal)
  | .executionError none none => line "Error: process finished with an unknown status"
  | .failed e => line ("Error: " ++ e.message)

/-- What is printed after a run, and the exit code. -/
def closing (a : Arguments) (limits : Limits) (o : Outcome) : Report where
  stdout :=
    (if a.quiet then "" else notice limits o.status) ++
      (if a.json then line o.summary.render else "")
  stderr := complaint o.status
  code := o.exitCode

end Curfew.CommandLine
