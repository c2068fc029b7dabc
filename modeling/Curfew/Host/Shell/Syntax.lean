import Curfew.Text.Octets

/-!
# The syntax of shell commands

Words are sequences of parts, some of which are expanded when the word is used. Commands nest: a
command substitution in a word holds a command.
-/

namespace Curfew.Host.Shell

open Text (Raw)

/-- What a parameter expansion does with the value of its parameter. With `colon`, an empty value
counts as missing. -/
inductive ParamForm
  | plain
  | length
  /-- The argument where the value is missing. -/
  | fallback (colon : Bool)
  /-- The argument where the value is missing, which it is assigned to. -/
  | assign (colon : Bool)
  /-- A complaint where the value is missing. -/
  | complain (colon : Bool)
  /-- The argument where the value is there. -/
  | instead (colon : Bool)
  /-- The value without a match of the argument at its start. -/
  | trimStart (longest : Bool)
  /-- The value without a match of the argument at its end. -/
  | trimEnd (longest : Bool)
  /-- Something that is no expansion, which shows only when it is carried out. -/
  | bad
deriving DecidableEq, Repr

/-- What a redirection does with its target. -/
inductive RedirectOp
  | input
  | output
  | append
  | both
  /-- The target is the number of a descriptor, or a dash to close. -/
  | duplicate
  | text
deriving DecidableEq, Repr

mutual

/-- A part of a word. Quoted parts are neither split nor matched as patterns. -/
inductive Part
  | text (chars : Raw) (quoted : Bool)
  | param (name : Raw) (form : ParamForm) (arg : List Part) (quoted : Bool)
  | command (c : Command) (quoted : Bool)
  | arith (expression : List Part) (quoted : Bool)

inductive Redirect
  | mk (fd : Nat) (op : RedirectOp) (target : List Part)

/-- A clause of a case command: patterns and what follows a match. -/
inductive Clause
  | mk (patterns : List (List Part)) (body : Command)

inductive Command
  | nothing
  | simple (line : Nat) (assigns : List (Raw × List Part)) (words : List (List Part))
      (redirects : List Redirect)
  /-- Commands joined by pipes, the status being turned round with `negated`. -/
  | pipeline (negated : Bool) (stages : List Command)
  | andThen (first second : Command)
  | orElse (first second : Command)
  | sequence (first second : Command)
  | background (c : Command)
  | subshell (c : Command) (redirects : List Redirect)
  | group (c : Command) (redirects : List Redirect)
  | choose (test yes no : Command) (redirects : List Redirect)
  /-- Repeats while the test succeeds, or with `negated` while it fails. -/
  | loop (negated : Bool) (test body : Command) (redirects : List Redirect)
  /-- Runs the body for each word, or for each parameter of the script. -/
  | forEach (name : Raw) (words : Option (List (List Part))) (body : Command)
      (redirects : List Redirect)
  | select (subject : List Part) (clauses : List Clause) (redirects : List Redirect)
  | define (name : Raw) (body : Command)

end

/-- The commands that belong to the shell itself; assignments before them stay. -/
def specialBuiltins : List String :=
  [":", "break", "continue", ".", "eval", "exec", "exit", "export", "readonly", "return", "set",
   "shift", "times", "trap", "unset"]

abbrev Word := List Part

instance : Inhabited Command := ⟨.nothing⟩

end Curfew.Host.Shell
