import Curfew.Decimal.Signed
import Curfew.Text.ControlSequence

/-!
# The arguments of the command

* **`Arguments`** is what a complete command line asks for.
* **`Arguments.read`** reads the words from left to right; it ends with the arguments, or stops at a
  request for help or for the version, or at the first thing wrong (**`Misuse`**).

An option's value is settled only when the next word that is not part of it comes, or at the end.
So an unknown word is reported before a value in front of it that is no good, and a request for help
after it.
-/

namespace Curfew.CommandLine

inductive ValueOption
  | timeout
  | config
deriving DecidableEq, Repr

/-- An option without a value. -/
inductive Switch
  | json
  | dryRun
  | verbose
  | quiet
  | help
  | version
deriving DecidableEq, Repr

inductive Opt
  | value (o : ValueOption)
  | switch (s : Switch)
deriving DecidableEq, Repr

namespace Opt

def ofLong? (name : String) : Option Opt :=
  match name with
  | "timeout" => some (.value .timeout)
  | "config" => some (.value .config)
  | "json" => some (.switch .json)
  | "dry-run" => some (.switch .dryRun)
  | "verbose" => some (.switch .verbose)
  | "quiet" => some (.switch .quiet)
  | "help" => some (.switch .help)
  | "version" => some (.switch .version)
  | _ => none

def ofLetter? (c : Char) : Option Opt :=
  match c with
  | 't' => some (.value .timeout)
  | 'c' => some (.value .config)
  | 'v' => some (.switch .verbose)
  | 'q' => some (.switch .quiet)
  | 'h' => some (.switch .help)
  | 'V' => some (.switch .version)
  | _ => none

/-- How an option is shown. -/
def display : Opt → String
  | .value .timeout => "--timeout <TIMEOUT>"
  | .value .config => "--config <CONFIG>"
  | .switch .json => "--json"
  | .switch .dryRun => "--dry-run"
  | .switch .verbose => "--verbose"
  | .switch .quiet => "--quiet"
  | .switch .help => "--help"
  | .switch .version => "--version"

end Opt

/-- What can be wrong with a command line. -/
inductive Misuse
  | unexpectedArgument (word : String)
  | unexpectedValue (value : String) (s : Switch)
  | missingValue (o : ValueOption)
  | badTimeout (value : String) (fault : Decimal.Signed.Fault)
  | repeated (o : Opt)
  | missingScript
deriving DecidableEq, Repr

/-- The words for what is wrong. They are not meant for a terminal, so what was given is quoted
without control sequences. -/
def Misuse.message : Misuse → String
  | .unexpectedArgument word => "unexpected argument '" ++ Text.withoutControls word ++ "' found"
  | .unexpectedValue value s =>
    "unexpected value '" ++ Text.withoutControls value ++ "' for '" ++ (Opt.switch s).display ++
      "' found; no more were expected"
  | .missingValue o =>
    "a value is required for '" ++ (Opt.value o).display ++ "' but none was supplied"
  | .badTimeout value fault =>
    "invalid value '" ++ Text.withoutControls value ++ "' for '" ++
      (Opt.value .timeout).display ++ "': " ++ fault.message
  | .repeated o => "the argument '" ++ o.display ++ "' cannot be used multiple times"
  | .missingScript => "the following required arguments were not provided:\n  <SCRIPT>"

structure Arguments where
  script : String
  timeout : Option Int64
  config : String
  json : Bool
  dryRun : Bool
  /-- Asks for more of the log, which is no part of what is modelled. -/
  verbose : Bool
  quiet : Bool
deriving DecidableEq, Repr

/-- Why reading stops before there are arguments. -/
inductive Stop
  | help
  | version
  | misuse (m : Misuse)
deriving DecidableEq, Repr

/-- The settings file that is used if none is named. -/
def defaultConfig : String := "cmd-runner.toml"

structure Reading where
  script : Option String
  timeout : Option Int64
  config : Option String
  switches : List Switch
  /-- An option that is not settled yet, and its value if that was seen. -/
  pending : Option (ValueOption × Option String)
  /-- Whether the next word can be the value of the pending option. -/
  awaiting : Bool
  /-- Whether all further words are taken as they are. -/
  literal : Bool

namespace Reading

/-- Nothing read yet. -/
def start : Reading := ⟨none, none, none, [], none, false, false⟩

def store (r : Reading) (o : ValueOption) (value : String) : Except Stop Reading :=
  match o with
  | .timeout =>
    if r.timeout.isSome then .error (.misuse (.repeated (.value .timeout)))
    else
      match Decimal.Signed.read value with
      | .ok n => .ok { r with timeout := some n }
      | .error fault => .error (.misuse (.badTimeout value fault))
  | .config =>
    if r.config.isSome then .error (.misuse (.repeated (.value .config)))
    else if value.isEmpty then .error (.misuse (.missingValue .config))
    else .ok { r with config := some value }

def settle (r : Reading) : Except Stop Reading :=
  match r.pending with
  | none => .ok r
  | some (o, none) => .error (.misuse (.missingValue o))
  | some (o, some value) => { r with pending := none, awaiting := false }.store o value

/-- Takes in an option without a value. -/
def turnOn (r : Reading) (s : Switch) : Except Stop Reading := do
  let r ← r.settle
  match s with
  | .help => .error .help
  | .version => .error .version
  | _ =>
    if r.switches.contains s then .error (.misuse (.repeated (.switch s)))
    else .ok { r with switches := s :: r.switches, awaiting := false }

/-- Takes in an option with a value: that is attached to it, or still to come. -/
def begin (r : Reading) (o : ValueOption) (attached : Option String) : Except Stop Reading := do
  let r ← r.settle
  match attached with
  | some value => r.store o value
  | none => .ok { r with pending := some (o, none), awaiting := true }

/-- Takes in a word that is no option. -/
def positional (r : Reading) (word : String) : Except Stop Reading :=
  if r.script.isSome then .error (.misuse (.unexpectedArgument word))
  else do
    let r ← r.settle
    .ok { r with script := some word, awaiting := false }

/-- Takes in a word without a dash in front, or one that is read as such. -/
def plain (r : Reading) (word : String) : Except Stop Reading :=
  match r.awaiting, r.pending with
  | true, some (o, _) => .ok { r with pending := some (o, some word), awaiting := false }
  | _, _ => r.positional word

/-- Takes in a word that begins with two dashes. -/
def long (r : Reading) (body : List Char) : Except Stop Reading :=
  let name := body.takeWhile (· != '=')
  let attached : Option String := match body.drop name.length with
    | [] => none
    | _ :: value => some (String.ofList value)
  match Opt.ofLong? (String.ofList name), attached with
  | none, _ => .error (.misuse (.unexpectedArgument ("--" ++ String.ofList name)))
  | some (.value o), _ => r.begin o attached
  | some (.switch s), none => r.turnOn s
  | some (.switch s), some value => .error (.misuse (.unexpectedValue value s))

/-- Takes in the letters after one dash. What follows a letter that wants a value is its value. -/
def letters (r : Reading) : List Char → Except Stop Reading
  | [] => .ok r
  | c :: rest =>
    match Opt.ofLetter? c with
    | none => .error (.misuse (.unexpectedArgument ("-" ++ String.singleton c)))
    | some (.switch s) =>
      match r.turnOn s with
      | .ok r => letters r rest
      | .error stop => .error stop
    | some (.value o) =>
      let attached : Option String := match rest with
        | [] => none
        | '=' :: value => some (String.ofList value)
        | value => some (String.ofList value)
      r.begin o attached

/-- Whether the letters after a dash look like a number: digits, a dot that is not the first, and
an exponent that is not empty. -/
def isNumber (body : List Char) : Bool :=
  let whole := body.takeWhile Char.isDigit
  match body.drop whole.length with
  | [] => true
  | '.' :: rest => !whole.isEmpty && endsWell (rest.dropWhile Char.isDigit)
  | rest => !whole.isEmpty && endsWell rest
where
  /-- Whether nothing follows but an exponent. -/
  endsWell : List Char → Bool
    | [] => true
    | c :: digits => (c == 'e' || c == 'E') && !digits.isEmpty && digits.all Char.isDigit

/-- Takes in a word. Only the value of a timeout may look like a number with a sign. -/
def word (r : Reading) (text : String) : Except Stop Reading :=
  if r.literal then r.positional text
  else
    match text.toList with
    | ['-', '-'] => .ok { r with literal := true }
    | '-' :: '-' :: body => r.long body
    | ['-'] => r.plain text
    | '-' :: body =>
      let wantsNumber := r.awaiting && r.pending.any fun p => p.1 == .timeout
      if wantsNumber && isNumber body then r.plain text else r.letters body
    | _ => r.plain text

/-- The arguments, once every word was taken in. -/
def finish (r : Reading) : Except Stop Arguments := do
  let r ← r.settle
  match r.script with
  | none => .error (.misuse .missingScript)
  | some script =>
    .ok {
      script := script
      timeout := r.timeout
      config := r.config.getD defaultConfig
      json := r.switches.contains .json
      dryRun := r.switches.contains .dryRun
      verbose := r.switches.contains .verbose
      quiet := r.switches.contains .quiet }

end Reading

def Arguments.read (words : List String) : Except Stop Arguments := do
  let r ← words.foldlM Reading.word .start
  r.finish

end Curfew.CommandLine
