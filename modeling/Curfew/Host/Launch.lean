import Curfew.Host.Call

/-!
# What a path starts

A path that is to be run names a program of the system, or a script whose first line names its
interpreter.

* **`Interpreter.ofHead`** reads that first line. Only the beginning of the file counts, and blanks
  set the interpreter apart from one optional argument.
* **`load`** follows a path to the program that will run, and says with which arguments.
* **`loadCommand`** looks a bare name up in the search path first.
-/

namespace Curfew.Host

open Text (Raw)

/-- What the first line of a script asks for. -/
structure Interpreter where
  path : Bytes
  argument : Option Bytes
deriving DecidableEq, Repr

namespace Interpreter

/-- How much of a file is looked at. -/
def headLength : Nat := 256

/-- Whether a byte is a blank or a tab. -/
def isBlank (b : UInt8) : Bool := b == 32 || b == 9

/-- The beginning of a file, with zero bytes after its end. -/
def headOf (body : Bytes) : Bytes :=
  let head := body.take headLength
  head ++ List.replicate (headLength - head.length) 0

/-- The part of a line before its end: the line feed, or, where there is none, the end of what is
looked at. A path that may go on beyond that is refused. -/
def lineOf (text : Bytes) : Option Bytes :=
  let shown := text.takeWhile (· != 0)
  if shown.contains 10 then some (shown.takeWhile (· != 10))
  else
    let body := text.dropLast
    let rest := text.dropWhile isBlank
    if rest.any (fun b => isBlank b || b == 0) then some body else none

/-- A line without the blanks around it. -/
def trim (line : Bytes) : Bytes :=
  ((line.reverse.dropWhile isBlank).reverse).dropWhile isBlank

/-- What a line asks for: up to a blank the path, after the blanks the argument. Nothing counts that
follows a zero byte. -/
def ofLine (line : Bytes) : Interpreter :=
  let path := line.takeWhile fun b => !(isBlank b || b == 0)
  let rest := line.drop path.length
  if (rest.head?.getD 0) == 0 then ⟨path, none⟩
  else
    let argument := rest.dropWhile isBlank
    ⟨path, if argument.isEmpty then none else some (argument.takeWhile (· != 0))⟩

/-- What the beginning of a script asks for. -/
def ofHead (body : Bytes) : Option Interpreter :=
  match headOf body with
  | 35 :: 33 :: text =>
    match lineOf text with
    | none => none
    | some line =>
      let line := trim line
      if line.isEmpty then none else some (ofLine line)
  | _ => none

end Interpreter

/-- How many scripts may be each other's interpreters. -/
def interpreterDepth : Nat := 5

/-- The program that a path leads to, and its arguments. -/
def load (fs : Files) (cwd : Place) (depth : Nat) (path : Bytes) (args : List Raw) :
    Except Errno (String × List Raw) :=
  match fs.lookup cwd path with
  | .error e => .error e
  | .ok (_, .program name) => .ok (name, args)
  | .ok (_, .file body mode) =>
    if !isExecutableMode mode then .error .accessDenied
    else
      match Interpreter.ofHead body with
      | none => .error .notExecutable
      | some interpreter =>
        match depth with
        | 0 => .error .linkLoop
        | depth + 1 =>
          let argument := (interpreter.argument.map Raw.ofBytes).toList
          load fs cwd depth interpreter.path
            (Raw.ofBytes interpreter.path :: argument ++ Raw.ofBytes path :: args.drop 1)
  | .ok (_, _) => .error .accessDenied

/-- The search path where none is set. -/
def defaultSearchPath : Raw := "/bin:/usr/bin"

/-- Tries the directories of a search path in turn. A place that may not be run is remembered, in
case nothing better is found. -/
def searchFor (fs : Files) (cwd : Place) (name : Bytes) (args : List Raw) :
    List Bytes → Bool → Except Errno (Bytes × String × List Raw)
  | [], refused => .error (if refused then .accessDenied else .noEntry)
  | dir :: dirs, refused =>
    let path := if dir.isEmpty then name else dir ++ Files.slash :: name
    match load fs cwd interpreterDepth path args with
    | .ok found => .ok (path, found)
    | .error e =>
      if e = .noEntry || e = .notDirectory then searchFor fs cwd name args dirs refused
      else if e = .accessDenied then searchFor fs cwd name args dirs true
      else .error e

/-- The program that a command leads to: a name without a slash is looked up in the search path. -/
def loadCommand (fs : Files) (cwd : Place) (searchPath : Bytes) (command : Bytes)
    (args : List Raw) : Except Errno (Bytes × String × List Raw) :=
  if command.isEmpty then .error .noEntry
  else if command.contains Files.slash then
    (load fs cwd interpreterDepth command args).map fun found => (command, found)
  else if Files.nameLimit < command.length then .error .nameTooLong
  else searchFor fs cwd command args (searchPath.splitOn 58) false

end Curfew.Host
