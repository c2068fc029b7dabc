import Curfew.Host.Shell.Condition
import Curfew.Host.Shell.Output

/-!
# A shell at work

A **`Shell`** keeps what it still has to do as a stack of **`Frame`**s. **`Shell.next`** takes the
uppermost frame and says what call it needs, and how to go on with the reply: small steps, so that
other processes can run, and signals come in, between any two.
-/

namespace Curfew.Host

open Text (Raw)
open Shell

/-- Something a shell still has to do. -/
inductive Frame
  /-- Read and carry out commands; with `last` the final one may take the shell's place. -/
  | source (text : Source) (last : Bool)
  /-- Carry out a command. In a `tested` one a failure does not end the shell. -/
  | exec (c : Command) (tested : Bool)
  /-- Carry out a command after the status was as wanted. -/
  | follow (success : Bool) (c : Command) (tested : Bool)
  | negate
  /-- Leave with a failed status, where the option for it is on. -/
  | checkError
  | branch (yes no : Command) (tested : Bool)
  | round (negated : Bool) (test body : Command) (tested : Bool)
  /-- The test of a loop was carried out. -/
  | tested (negated : Bool) (test body : Command) (tested : Bool)
  | each (name : Raw) (items : List Raw) (body : Command) (tested : Bool)
  /-- Apply redirections; a failure cancels the frame that follows. -/
  | redirects (rs : List Redirect)
  | rewire (ops : List (Nat × Target))
  | restore
  | restoreVars (vars : List (Raw × Variable))
  | builtin (name : Raw) (args : List Raw)
  /-- Become another program, because of an `exec` command or not. -/
  | become (args : List Raw) (asked : Bool)
  /-- Start another program and wait for it. -/
  | start (args : List Raw)
  /-- A stage of a pipeline is to be started; `input` is the pipe from the one before. -/
  | stages (todo : List Command) (input : Option Nat) (started : List Nat)
  /-- A pipe was made for the first stage of `todo`. -/
  | stage (todo : List Command) (input : Option Nat) (pipe : Option (Nat × Nat))
      (started : List Nat)
  /-- Wait for children; the status is that of `last`. -/
  | wait (children : List Nat) (last : Nat)
  /-- Wait for children started in the background. -/
  | waitJobs (children : List Nat) (all : Bool)
  | substitute (c : Command)
  | substituted (c : Command) (read write : Nat)
  | collect (fd child : Nat) (got : List Bytes)
  /-- Go on with a command, the output of its first substitution being known, as after `status`. -/
  | fill (c : Command) (tested : Bool) (status : Nat)
  | output (fd : Nat) (text : Raw)
  /-- Write the output of a built-in command. -/
  | print (name : Raw) (text : Raw)
  | readLine (names : List Raw) (raw : Bool) (got : List Char)
  /-- Go back to the parameters and variables from before a function. -/
  | endFunction (params : List Raw) (locals : List (Raw × Option Variable))
  /-- The commands of another command (a file that is included, or an argument) are over; `outer`
  is the one that was carried out before. -/
  | endInner (included : Bool) (outer : Option Raw)
  | endTrap (status : Nat)
  | setStatus (status : Nat)
  | signals (targets : List (Int × Signal))
  | dispositions (changes : List (Signal × Disposition))
  | changeDirectory (path : Raw)
  /-- Read a file and carry it out. -/
  | include (path : Raw)
  /-- Open the script and carry it out. -/
  | openScript (path : Raw)
  /-- Read the script from the input and carry it out. -/
  | inputScript (got : List Bytes)
  | leave

structure Shell where
  scope : Scope
  functions : List (Raw × Command)
  /-- What was asked for signals, and, under 0, for the end. An empty text stands for nothing. -/
  traps : List (Signal × Raw)
  /-- Signals that came in and await their traps. -/
  signals : List Signal
  control : List Frame
  jobs : List Nat
  /-- Those that have ended, with their raw wait statuses. -/
  finished : List (Nat × Nat)
  /-- The line of the command being carried out. -/
  line : Nat
  /-- The file or command whose commands are being carried out. -/
  inner : Option Raw
  /-- The bits that new files do not get. -/
  mask : Nat
  /-- The status of the last command substitution of the command being carried out. -/
  substitution : Option Nat
  result : Raw

namespace Shell

/-! ## Messages and statuses -/

/-- The status that stands for a raw wait status. -/
def statusOf (raw : Nat) : Nat := if raw % 128 = 0 then raw / 256 % 256 else 128 + raw % 128

def withStatus (s : Shell) (n : Nat) : Shell := { s with scope := { s.scope with status := n } }

/-- The state with more to do first. -/
def push (s : Shell) (frames : List Frame) : Shell := { s with control := frames ++ s.control }

def grumble (s : Shell) (name : Raw) (text : String) : Frame :=
  .output 2 (s.scope.name ++ ": " ++ toString s.line ++ ": " ++ name ++ ": " ++ text ++ "\n")

def complaint (s : Shell) (text : String) : Frame :=
  match s.inner with
  | some name => s.grumble name text
  | none => .output 2 (s.scope.name ++ ": " ++ toString s.line ++ ": " ++ text ++ "\n")

def hasFlag (s : Shell) (flag : Char) : Bool := s.scope.flags.contains flag

def setFlag (s : Shell) (flag : Char) (on : Bool) : Shell :=
  let others := s.scope.flags.toList.filter (· != flag)
  let flags := if on then others ++ [flag] else others
  { s with scope := { s.scope with flags := String.ofList flags } }

/-- Whether anything is to be done on a signal or at the end. -/
def hasTraps (s : Shell) : Bool := !s.traps.isEmpty

/-- Gives up everything else and leaves with a status. -/
def abort (s : Shell) (status : Nat) (first : List Frame) : Shell :=
  { s with control := first ++ [.setStatus status, .leave] }

/-- The state of a subshell with something to do. Traps are the parent's, except that ignored
signals stay ignored. -/
def child (s : Shell) (frames : List Frame) : Shell :=
  { s with
    traps := s.traps.filter fun t => t.2 == "" && t.1 != 0
    signals := []
    jobs := []
    finished := []
    control := frames ++ [.leave] }

/-! ## Unwinding -/

/-- The frames left of the `n`-th loop around, what has to be undone on the way coming first. With
`again` the loop goes on with its next round. -/
def unwindLoops (again : Bool) : Nat → List Frame → List Frame
  | _, [] => []
  | n, f :: rest =>
    let there := if again then f :: rest else rest
    match f with
    | .round .. => if n ≤ 1 then there else unwindLoops again (n - 1) rest
    | .each .. => if n ≤ 1 then there else unwindLoops again (n - 1) rest
    | .restore => f :: unwindLoops again n rest
    | .endInner _ _ => f :: unwindLoops again n rest
    | .restoreVars _ => f :: unwindLoops again n rest
    | .endFunction _ _ => f :: rest
    | .leave => f :: rest
    | _ => unwindLoops again n rest

def inLoop : List Frame → Bool
  | [] => false
  | .round .. :: _ => true
  | .each .. :: _ => true
  | .endFunction _ _ :: _ => false
  | _ :: rest => inLoop rest

def inFunction (control : List Frame) : Bool :=
  control.any fun f =>
    match f with
    | .endFunction _ _ => true
    | _ => false

/-- Notes what a variable was before the function around. -/
def noteLocal (name : Raw) (old : Option Variable) : List Frame → List Frame
  | [] => []
  | .endFunction params locals :: rest => .endFunction params ((name, old) :: locals) :: rest
  | f :: rest => f :: noteLocal name old rest

/-- The frames left of the function or the included file around. -/
def unwindFunction : List Frame → List Frame
  | [] => []
  | f :: rest =>
    match f with
    | .endFunction _ _ => f :: rest
    | .restore => f :: unwindFunction rest
    | .endInner false _ => f :: unwindFunction rest
    | .endInner true _ => f :: rest
    | .restoreVars _ => f :: unwindFunction rest
    | .leave => f :: rest
    | _ => unwindFunction rest

/-! ## Built-in commands -/

/-- The other commands that are built in. -/
def plainBuiltins : List String :=
  ["true", "false", "echo", "printf", "cd", "pwd", "read", "test", "[", "kill", "wait", "umask",
   "local", "command", "type", "ulimit", "hash", "alias", "unalias", "getopts", "jobs", "fg", "bg"]

def isBuiltin (name : Raw) : Bool := specialBuiltins.contains name || plainBuiltins.contains name

/-- The number that a word of digits stands for. -/
def number? (word : Raw) : Option Nat :=
  if word != "" && word.all Char.isDigit then word.toNat? else none

/-- The signal of a word: a name without `SIG`, or a number. -/
def signalOf? (word : Raw) : Option Signal :=
  match number? word with
  | some n => if n ≤ Signal.greatest then some n else none
  | none =>
    let name := word.toUpper
    if name == "EXIT" then some 0
    else if name.startsWith "SIG" then none
    else Signal.ofName? name

/-- The name of a signal, or its number. -/
def signalName (n : Signal) : Raw := (n.row?.map Signal.Row.name).getD (toString n)

/-- The name and value of an assignment in a word. -/
def assignment (word : Raw) : Raw × Option Raw :=
  let name := word.toList.takeWhile (· != '=')
  match word.toList.drop name.length with
  | [] => (word, none)
  | _ :: value => (String.ofList name, some (String.ofList value))

def optionLetters : List Char := "efIimnsxvVECabup".toList

/-- The letter of an option that is given by its long name. -/
def optionLetter? (name : Raw) : Option Char :=
  match name with
  | "errexit" => some 'e'
  | "noglob" => some 'f'
  | "ignoreeof" => some 'I'
  | "interactive" => some 'i'
  | "monitor" => some 'm'
  | "noexec" => some 'n'
  | "stdin" => some 's'
  | "xtrace" => some 'x'
  | "verbose" => some 'v'
  | "vi" => some 'V'
  | "emacs" => some 'E'
  | "noclobber" => some 'C'
  | "allexport" => some 'a'
  | "notify" => some 'b'
  | "nounset" => some 'u'
  | "privileged" => some 'p'
  | _ => none

/-- Turns the options of a word on or off; an `o` takes a long name from the words that follow, of
which so many are used. -/
def setFlags (s : Shell) (on : Bool) : List Char → List Raw → Except Raw (Shell × Nat)
  | [], _ => .ok (s, 0)
  | 'o' :: flags, names =>
    match names with
    | [] => setFlags s on flags []
    | name :: names =>
      match optionLetter? name with
      | some flag => (setFlags (s.setFlag flag on) on flags names).map fun r => (r.1, r.2 + 1)
      | none => .error ("Illegal option -o " ++ name)
  | flag :: flags, names =>
    if optionLetters.contains flag then setFlags (s.setFlag flag on) on flags names
    else .error ("Illegal option -" ++ String.singleton flag)

/-- Fewer words are left after the first and some more. -/
theorem length_drop_lt (n : Nat) (word : Raw) (rest : List Raw) :
    (rest.drop n).length < (word :: rest).length := by
  rw [List.length_drop]
  exact Nat.lt_succ_of_le (Nat.sub_le _ _)

/-- Turns options on or off, and sets the parameters. -/
def setOptions (s : Shell) : List Raw → Except Raw Shell
  | [] => .ok s
  | word :: rest =>
    match word.toList with
    | ['-', '-'] => .ok { s with scope := { s.scope with params := rest } }
    | '-' :: flags =>
      match setFlags s true flags rest with
      | .ok (s, used) => setOptions s (rest.drop used)
      | .error text => .error text
    | '+' :: flags =>
      match setFlags s false flags rest with
      | .ok (s, used) => setOptions s (rest.drop used)
      | .error text => .error text
    | _ => .ok { s with scope := { s.scope with params := word :: rest } }
termination_by words => words.length
decreasing_by all_goals exact length_drop_lt _ _ _

/-- What a trap command changes. Signals before one that is not known are changed. -/
def setTraps (s : Shell) (action : Option Raw) (names : List Raw) : Shell :=
  let good := names.takeWhile fun name => (signalOf? name).isSome
  let wanted := good.filterMap signalOf?
  let kept := s.traps.filter fun t => !wanted.contains t.1
  let traps := match action with
    | none => kept
    | some text => kept ++ wanted.map fun n => (n, text)
  let disposition : Disposition := match action with
    | none => .default
    | some "" => .ignore
    | some _ => .catch_
  let changes := (wanted.filter (· != 0)).map fun n => (n, disposition)
  let s := { s with traps := traps }
  match names.drop good.length with
  | [] => (s.withStatus 0).push [.dispositions changes]
  | bad :: _ =>
    (s.withStatus 1).push
      [.dispositions changes, .output 2 ("trap: " ++ bad ++ ": bad trap\n"), .setStatus 1]

/-- Says that a built-in command went wrong: a special one ends the shell. -/
def fault (s : Shell) (name text : Raw) : Shell :=
  let message := s.grumble name text
  if specialBuiltins.contains name then s.abort 2 [message]
  else (s.withStatus 2).push [message, .setStatus 2]

def killUsage : Raw :=
  "Usage: kill [-s sigspec | -signum | -sigspec] [pid | job]... or\nkill -l [exitstatus]"

/-- The names that `kill -l` prints. -/
def signalList : Raw :=
  let row (n : Nat) : Raw := (if n = 0 then "0" else signalName n) ++ "\n"
  String.join ((List.range 32).map row)

/-- The options of a kill command: the signal, whether names are asked for, and what follows. -/
def killOptions : Option Signal → Bool → List Raw → Except Raw (Option Signal × Bool × List Raw)
  | signal, list, [] => .ok (signal, list, [])
  | signal, list, word :: rest =>
    match word.toList with
    | ['-', '-'] => .ok (signal, list, rest)
    | ['-', 'l'] => killOptions signal true rest
    | ['-', 's'] =>
      match rest with
      | [] => .error "No arg for -s option"
      | name :: rest =>
        match signalOf? name with
        | some n => killOptions (some n) list rest
        | none => .error ("invalid signal number or name: " ++ name)
    | '-' :: c :: _ => .error ("Illegal option -" ++ String.singleton c)
    | _ => .ok (signal, list, word :: rest)

/-- The targets of a kill command: process numbers, and groups behind a dash. -/
def killTargets : List Raw → Except Raw (List Int)
  | [] => .ok []
  | word :: rest => do
    let (negative, digits) := match word.toList with
      | '-' :: ds => (true, String.ofList ds)
      | _ => (false, word)
    if word.startsWith "%" then .error ("No such job: " ++ word)
    else
      match number? digits with
      | none => .error ("Illegal number: " ++ digits)
      | some n =>
        let others ← killTargets rest
        return (if negative then -(n : Int) else (n : Int)) :: others

def sendSignals (s : Shell) (args : List Raw) : Shell :=
  let first : Option Signal := match args with
    | word :: _ =>
      match word.toList with
      | '-' :: cs => signalOf? (String.ofList cs)
      | _ => none
    | [] => none
  let options : Except Raw (Option Signal × Bool × List Raw) := match first with
    | some n => .ok (some n, false, args.drop 1)
    | none => killOptions none false args
  match options with
  | .error text => s.fault "kill" text
  | .ok (_, true, []) => (s.withStatus 0).push [.print "kill" signalList]
  | .ok (_, true, word :: _) =>
    match number? word with
    | none => s.fault "kill" ("Illegal number: " ++ word)
    | some n =>
      let n := if 128 < n then n - 128 else n
      if 0 < n && n ≤ Signal.greatest then
        (s.withStatus 0).push [.print "kill" (signalName n ++ "\n")]
      else s.fault "kill" ("invalid signal number or exit status: " ++ word)
  | .ok (_, false, []) => s.fault "kill" killUsage
  | .ok (signal, false, words) =>
    match killTargets words with
    | .error text => s.fault "kill" text
    | .ok targets =>
      (s.withStatus 0).push [.signals (targets.map fun t => (t, signal.getD Signal.term))]

/-- Goes on with the number that the first word gives, or with a default. -/
def withNumber (s : Shell) (name : Raw) (args : List Raw) (default : Nat) (use : Nat → Shell) :
    Shell :=
  match args.head? with
  | none => use default
  | some word =>
    match number? word with
    | some n => use n
    | none => s.fault name ("Illegal number: " ++ word)

/-- Gives up over a variable that cannot be had, or must keep its value. -/
def badVariable (s : Shell) (name x : Raw) : Shell :=
  s.abort 2
    [s.grumble name (x ++ if isName x then ": is read only" else ": bad variable name")]

/-- The variable of some assignments that cannot be assigned to. -/
def badVariable? (s : Shell) (words : List Raw) : Option Raw :=
  words.findSome? fun word =>
    let (x, value) := assignment word
    if !isName x || (value.isSome && s.scope.isFixed x) then some x else none

/-- Makes variables local to the function around. -/
def makeLocal (s : Shell) : List Raw → Shell
  | [] => s
  | word :: rest =>
    let (x, value) := assignment word
    let old := (s.scope.vars.find? fun v => v.1 == x).map Prod.snd
    let scope := match value with
      | some value => s.scope.set x value
      | none => s.scope
    makeLocal { s with scope := scope, control := noteLocal x old s.control } rest

/-- What a `command` command runs, or tells of a name. -/
def describe (v : View) (s : Shell) (name : Raw) : Option Raw :=
  if isBuiltin name || reservedWords.contains name || (s.functions.any fun f => f.1 == name) then
    some name
  else if name.contains '/' then (if v.isExecutable name then some name else none)
  else v.findCommand ((s.scope.get? "PATH").getD "") name

/-- What a `type` command says of a name. -/
def kindOf (v : View) (s : Shell) (name : Raw) : Raw :=
  if reservedWords.contains name then " is a shell keyword"
  else if s.functions.any fun f => f.1 == name then " is a shell function"
  else if specialBuiltins.contains name then " is a special shell builtin"
  else if isBuiltin name then " is a shell builtin"
  else
    match describe v s name with
    | some path => " is " ++ path
    | none => ": not found"

/-- Makes a `umask` command show or change the mask. -/
def changeMask (s : Shell) (args : List Raw) : Shell :=
  match args with
  | [] =>
    let digits := Nat.toDigits 8 s.mask
    let zeros := List.replicate (4 - digits.length) '0'
    s.push [.print "umask" (String.ofList (zeros ++ digits ++ ['\n']))]
  | word :: _ =>
    let (n, rest) := Output.octal word.length word.toList
    if rest.isEmpty then { s with mask := n % 512 }
    else if (word.toList.head?.map Char.isDigit).getD false then
      s.fault "umask" ("Illegal number: " ++ word)
    else s

def condition (v : View) (s : Shell) (name : Raw) (words : List Raw) : Shell :=
  match Condition.holds v (words.length + 1) words with
  | .ok b => s.withStatus (if b then 0 else 1)
  | .error f => s.fault name f.message

def builtin (v : View) (s : Shell) (name : Raw) (args : List Raw) : Shell :=
  let ok := s.withStatus 0
  match name with
  | "true" | ":" | "times" | "hash" | "alias" | "unalias" | "getopts" | "jobs" | "fg" | "bg"
  | "ulimit" => ok
  | "false" => s.withStatus 1
  | "echo" => ok.push [.print name (Output.echo args)]
  | "printf" =>
    let args := if args.head? == some "--" then args.drop 1 else args
    match args with
    | [] => s.fault name "usage: printf format [arg ...]"
    | format :: rest =>
      let f := Output.printf format rest
      let status := if f.invalid then 2 else if f.complaints.isEmpty then 0 else 1
      s.push (f.complaints.map (s.grumble name) ++
        [.setStatus status, .print name (String.ofList f.text)])
  | "test" => s.condition v name args
  | "[" =>
    if args.getLast? == some "]" then s.condition v name args.dropLast else s.fault name "missing ]"
  | "exit" =>
    s.withNumber name args s.scope.status fun n => { s with control := [.leave] }.withStatus n
  | "return" =>
    s.withNumber name args s.scope.status fun n =>
      { s with control := unwindFunction s.control }.withStatus n
  | "break" =>
    s.withNumber name args 1 fun n =>
      if inLoop s.control then { ok with control := unwindLoops false n s.control } else ok
  | "continue" =>
    s.withNumber name args 1 fun n =>
      if inLoop s.control then { ok with control := unwindLoops true n s.control } else ok
  | "exec" => ok
  | "eval" =>
    { ok with inner := some name }.push
      [.source ⟨(String.intercalate " " args).toList, 1⟩ false, .endInner false s.inner]
  | "." =>
    match args with
    | [] => s.withStatus 2
    | path :: _ => ok.push [.include path]
  | "set" =>
    match ok.setOptions args with
    | .ok s => s
    | .error text => s.fault name text
  | "shift" =>
    s.withNumber name args 1 fun n =>
      if s.scope.params.length < n then s.fault name "can't shift that many"
      else { ok with scope := { ok.scope with params := s.scope.params.drop n } }
  | "export" | "readonly" =>
    match s.badVariable? args with
    | some x => s.badVariable name x
    | none =>
      let scope := args.foldl (fun scope word =>
        let (x, value) := assignment word
        let scope := match value with
          | some value => scope.set x value
          | none => if (scope.get? x).isSome then scope else scope.set x ""
        if name == "export" then scope.export_ x else scope.fix x) ok.scope
      { ok with scope := scope }
  | "local" =>
    if inFunction s.control then
      match s.badVariable? args with
      | some x => s.badVariable name x
      | none => ok.makeLocal args
    else s.abort 2 [s.grumble name "not in a function"]
  | "unset" =>
    let names := args.filter fun word => !word.startsWith "-"
    if args.head? == some "-f" then
      { ok with functions := s.functions.filter fun f => !names.contains f.1 }
    else
      match names.find? fun x => !isName x || s.scope.isFixed x with
      | some x => s.badVariable name x
      | none => { ok with scope := names.foldl Scope.unset ok.scope }
  | "trap" =>
    match args with
    | [] =>
      let sorted := s.traps.mergeSort fun a b => a.1 ≤ b.1
      let lines := sorted.map fun t =>
        "trap -- '" ++ t.2 ++ "' " ++ (if t.1 = 0 then "EXIT" else signalName t.1) ++ "\n"
      ok.push [.print name (String.join lines)]
    | [one] => ok.setTraps none [one]
    | action :: names =>
      if action == "-" then ok.setTraps none names
      else if (signalOf? action).isSome && action.toNat?.isSome then ok.setTraps none args
      else ok.setTraps (some action) names
  | "kill" => s.sendSignals args
  | "wait" =>
    match args, args.find? fun word => (number? word).isNone with
    | [], _ => ok.push [.waitJobs [] true]
    | _, some bad => s.fault name ("Illegal number: " ++ bad)
    | _, none => ok.push [.waitJobs (args.filterMap number?) false]
  | "cd" => ok.push [.changeDirectory (args.head?.getD ((s.scope.get? "HOME").getD "/"))]
  | "pwd" => ok.push [.print name (Raw.ofBytes (Files.render v.cwd) ++ "\n")]
  | "read" =>
    let raw := args.contains "-r"
    let names := args.filter fun word => !word.startsWith "-"
    match names.find? fun x => !isName x with
    | some x => s.fault name (x ++ ": bad variable name")
    | none => if names.isEmpty then s.fault name "arg count" else s.push [.readLine names raw []]
  | "umask" => ok.changeMask args
  | "command" =>
    match args with
    | "-v" :: x :: _ =>
      match describe v s x with
      | some text => ok.push [.print name (text ++ "\n")]
      | none => s.withStatus 127
    | x :: rest => if isBuiltin x then ok.push [.builtin x rest] else ok.push [.start (x :: rest)]
    | [] => ok
  | "type" =>
    let known := args.all fun x => !(kindOf v s x).endsWith "not found"
    (s.withStatus (if known then 0 else 127)).push
      [.print name (String.join (args.map fun x => x ++ kindOf v s x ++ "\n"))]
  | _ => s.withStatus 127

/-! ## Commands -/

def redirectCommand? (rs : List Redirect) : Option Command :=
  rs.findSome? fun r =>
    match r with
    | .mk _ _ target => firstCommand? target

/-- Fills in the first command substitution of redirections. -/
def fillRedirects (output : Raw) : List Redirect → List Redirect
  | [] => []
  | .mk fd op target :: rest =>
    if (firstCommand? target).isSome then .mk fd op (fillFirst output target) :: rest
    else .mk fd op target :: fillRedirects output rest

/-- Fills in the first command substitution of some words. -/
def fillWords (output : Raw) : List Word → List Word
  | [] => []
  | word :: rest =>
    if (firstCommand? word).isSome then fillFirst output word :: rest
    else word :: fillWords output rest

/-- Fills in the first command substitution of some assignments. -/
def fillAssigns (output : Raw) : List (Raw × Word) → List (Raw × Word)
  | [] => []
  | (name, word) :: rest =>
    if (firstCommand? word).isSome then (name, fillFirst output word) :: rest
    else (name, word) :: fillAssigns output rest

/-- The command substitution that a command needs before anything else of it. -/
def pending? : Command → Option Command
  | .simple _ assigns words rs =>
    (words.findSome? firstCommand?).orElse fun () =>
      (assigns.findSome? fun a => firstCommand? a.2).orElse fun () => redirectCommand? rs
  | .forEach _ (some words) _ _ => words.findSome? firstCommand?
  | .select subject _ _ => firstCommand? subject
  | _ => none

/-- The command with the output of that substitution in place. -/
def filled (output : Raw) : Command → Command
  | .simple line assigns words rs =>
    if (words.findSome? firstCommand?).isSome then
      .simple line assigns (fillWords output words) rs
    else if (assigns.findSome? fun a => firstCommand? a.2).isSome then
      .simple line (fillAssigns output assigns) words rs
    else .simple line assigns words (fillRedirects output rs)
  | .forEach name (some words) body rs => .forEach name (some (fillWords output words)) body rs
  | .select subject clauses rs => .select (fillFirst output subject) clauses rs
  | c => c

/-- Sets variables from assignments, in order. -/
def assignAll (scope : Scope) : List (Raw × Word) → Except String Scope
  | [] => .ok scope
  | (name, word) :: rest => do
    let (value, scope) ← scope.joined word
    if scope.isFixed name then .error (name ++ ": is read only")
    else assignAll (scope.set name value) rest

/-- Frames under redirections that hold for them alone. -/
def under (rs : List Redirect) (frames : Frame) : List Frame :=
  if rs.isEmpty then [frames] else [.redirects rs, frames, .restore]

/-- The call that has to come first for redirections that are undone later. -/
def saving (rs : List Redirect) (s : Shell) : Call Shell × (Reply → Shell) :=
  (if rs.isEmpty then .compute else .saveDescriptors, fun _ => s)

/-- Nothing to ask; goes on as `s`. -/
def goOn (s : Shell) : Call Shell × (Reply → Shell) := (.compute, fun _ => s)

/-- Ends the shell over something that cannot be expanded. -/
def expansionFailed (s : Shell) (message : String) : Call Shell × (Reply → Shell) :=
  goOn (s.abort 2 [s.complaint message])

/-- Whether the command at hand is the last thing the shell does. -/
def isLast (s : Shell) : Bool :=
  match s.control with
  | [.leave] => !s.hasTraps
  | [.checkError, .leave] => !s.hasTraps
  | _ => false

/-- The trace of a command, its assignments as they were made in `assigned`. -/
def trace (s : Shell) (assigned : Scope) (assigns : List (Raw × Word)) (args : List Raw) :
    List Frame :=
  let made := assigns.map fun a => a.1 ++ "=" ++ (assigned.get? a.1).getD ""
  if s.hasFlag 'x' then [.output 2 ("+ " ++ String.intercalate " " (made ++ args) ++ "\n")] else []

/-- Carries out a simple command without substitutions. -/
def simple (s : Shell) (line : Nat) (assigns : List (Raw × Word)) (words : List Word)
    (rs : List Redirect) (tested : Bool) : Call Shell × (Reply → Shell) :=
  let check : List Frame := if tested then [] else [.checkError]
  let s := { s with line := line }
  match s.scope.allFields words with
  | .error message => s.expansionFailed message
  | .ok (args, scope) =>
    let s := { s with scope := scope }
    match args with
    | [] =>
      match assignAll s.scope assigns with
      | .error message => s.expansionFailed message
      | .ok scope =>
        let traced := if assigns.isEmpty then [] else s.trace scope assigns []
        let s := { s with scope := scope }.withStatus (s.substitution.getD 0)
        let done := s.scope.status
        saving rs (s.push (traced ++ under rs (.setStatus done) ++ check))
    | name :: rest =>
      match assignAll s.scope assigns with
      | .error message =>
        let ends := specialBuiltins.contains name || s.functions.any fun f => f.1 == name
        if ends then s.expansionFailed message
        else goOn ((s.withStatus 2).push ([s.complaint message, .setStatus 2] ++ check))
      | .ok assigned =>
        let traced := s.trace assigned assigns args
        if name == "exec" then
          let s := { s with scope := assigned }
          if rest.isEmpty then goOn (s.push (traced ++ [.redirects rs, .builtin name []]))
          else goOn (s.push (traced ++ [.redirects rs, .become rest true]))
        else
          match s.functions.find? fun f => f.1 == name with
          | some (_, body) =>
            let inner := { s with scope := { assigned with params := rest } }
            saving rs (inner.push (traced ++ under rs (.exec body tested) ++
              [.endFunction s.scope.params []] ++ check))
          | none =>
            if specialBuiltins.contains name then
              saving rs ({ s with scope := assigned }.push
                (traced ++ under rs (.builtin name rest) ++ check))
            else if plainBuiltins.contains name then
              let back : List Frame :=
                if assigns.isEmpty then [] else [.restoreVars s.scope.vars]
              saving rs ({ s with scope := assigned }.push
                (traced ++ under rs (.builtin name rest) ++ back ++ check))
            else
              let exported := assigns.foldl (fun scope a => scope.export_ a.1) assigned
              let run := traced ++ [.redirects rs, .become args false]
              let inner := { s with scope := exported }
              if s.isLast then goOn (inner.push run)
              else
                (.fork (inner.child run), fun reply =>
                  match reply with
                  | .child pid => s.push (.wait [pid] pid :: check)
                  | _ => (s.withStatus 2).push check)

def execute (s : Shell) (c : Command) (tested : Bool) : Call Shell × (Reply → Shell) :=
  let check : List Frame := if tested then [] else [.checkError]
  match pending? c with
  | some inner => goOn (s.push [.substitute inner, .fill c tested s.scope.status])
  | none =>
    match c with
    | .nothing => goOn s
    | .simple line assigns words rs => s.simple line assigns words rs tested
    | .pipeline negated stages =>
      goOn (s.push ([.stages stages none []] ++ (if negated then [.negate] else check)))
    | .andThen a b => goOn (s.push [.exec a true, .follow true b tested])
    | .orElse a b => goOn (s.push [.exec a true, .follow false b tested])
    | .sequence a b => goOn (s.push [.exec a tested, .exec b tested])
    | .background c =>
      let frames : List Frame :=
        [.dispositions [(Signal.int, .ignore), (3, .ignore)],
         .rewire [(0, .path (Bytes.ofString "/dev/null") .read)], .exec c false]
      (.fork (s.child frames), fun reply =>
        match reply with
        | .child pid =>
          { s with
            jobs := s.jobs ++ [pid]
            scope := { s.scope with background := some pid, status := 0 } }
        | _ => s.withStatus 2)
    | .subshell c rs =>
      let connect : List Frame := if rs.isEmpty then [] else [.redirects rs]
      (.fork (s.child (connect ++ [.exec c tested])), fun reply =>
        match reply with
        | .child pid => s.push (.wait [pid] pid :: check)
        | _ => s.withStatus 2)
    | .group c rs => saving rs (s.push (under rs (.exec c tested)))
    | .choose test yes no rs =>
      if rs.isEmpty then goOn (s.push [.exec test true, .branch yes no tested])
      else saving rs (s.push (under rs (.exec (.choose test yes no []) tested)))
    | .loop negated test body rs =>
      if rs.isEmpty then goOn ((s.withStatus 0).push [.round negated test body tested])
      else saving rs (s.push (under rs (.exec (.loop negated test body []) tested)))
    | .forEach name words body rs =>
      if rs.isEmpty then
        match words with
        | none => goOn ((s.withStatus 0).push [.each name s.scope.params body tested])
        | some words =>
          match s.scope.allFields words with
          | .error message => s.expansionFailed message
          | .ok (items, scope) =>
            goOn (({ s with scope := scope }.withStatus 0).push [.each name items body tested])
      else saving rs (s.push (under rs (.exec (.forEach name words body []) tested)))
    | .select subject clauses rs =>
      if rs.isEmpty then
        match s.scope.joined subject with
        | .error message => s.expansionFailed message
        | .ok (text, scope) =>
          let s := { s with scope := scope }
          let chosen := clauses.find? fun clause =>
            match clause with
            | .mk patterns _ => patterns.any fun p =>
              match s.scope.pattern p with
              | .ok (items, _) => Pattern.fits items text.toList
              | .error _ => false
          match chosen with
          | some (.mk _ body) => goOn ((s.withStatus 0).push [.exec body tested])
          | none => goOn (s.withStatus 0)
      else saving rs (s.push (under rs (.exec (.select subject clauses []) tested)))
    | .define name body =>
      let others := s.functions.filter fun f => f.1 != name
      goOn ({ s with functions := (name, body) :: others }.withStatus 0)

/-! ## Redirections -/

/-- The target of a redirection, or a complaint. -/
def targetOf (s : Shell) (op : RedirectOp) (word : Word) : Except String (Target × Raw) := do
  let (text, _) ← s.scope.joined word
  match op with
  | .input => .ok (.path text.bytes .read, text)
  | .output => .ok (.path text.bytes .truncate, text)
  | .append => .ok (.path text.bytes .append, text)
  | .both => .ok (.path text.bytes .readWrite, text)
  | .text => .ok (.text text.bytes, text)
  | .duplicate =>
    if text == "-" then .ok (.nowhere, text)
    else
      match text.toNat? with
      | some n => .ok (.descriptor n, text)
      | none => .error "Bad fd number"

/-- What to say of a target that could not be connected. -/
def redirectComplaint (target : Target) (text : Raw) (e : Errno) : String :=
  match target with
  | .descriptor _ => text ++ ": " ++ e.message
  | .path _ .read =>
    "cannot open " ++ text ++ ": " ++
      if e = .noEntry || e = .notDirectory then "No such file" else e.message
  | _ =>
    "cannot create " ++ text ++ ": " ++
      if e = .noEntry || e = .notDirectory then "Directory nonexistent" else e.message

/-- Cancels what the redirections were for. -/
def cancel (s : Shell) (message : String) : Shell :=
  let rest := match s.control with
    | .become _ _ :: _ => [.leave]
    | .builtin name _ :: rest => if specialBuiltins.contains name then [.leave] else rest
    | _ :: rest => rest
    | [] => []
  ({ s with control := rest }.withStatus 2).push [s.complaint message, .setStatus 2]

/-! ## Becoming another program -/

/-- What to say of a program that could not be started, and the status. -/
def becomeFailed (s : Shell) (name : Raw) (asked : Bool) (e : Errno) : Shell :=
  let missing := e = .noEntry || e = .notDirectory
  let text := name ++ ": " ++ if missing then "not found" else e.message
  s.abort (if missing then 127 else 126)
    [if asked then s.grumble "exec" text else s.complaint text]

/-- Becomes the program that a command names. A file without a first line for the system is run as
a script of the shell. -/
def become (v : View) (s : Shell) (args : List Raw) (asked : Bool) :
    Call Shell × (Reply → Shell) :=
  let name := args.head?.getD ""
  let found : Option Raw :=
    if name.contains '/' then some name
    else v.findCommand ((s.scope.get? "PATH").getD "/usr/bin:/bin") name
  match found with
  | none => goOn (s.becomeFailed name asked .noEntry)
  | some path =>
    (.exec path.bytes args s.scope.environment, fun reply =>
      match reply with
      | .failed e =>
        if e = .notExecutable then
          { s with
            control := [.openScript path, .leave]
            scope := { s.scope with name := path, params := args.drop 1 } }
        else s.becomeFailed name asked e
      | _ => s)

/-! ## Steps -/

/-- The words of a line that was read, the last taking the rest. -/
def assignLine (scope : Scope) (names : List Raw) (line : List Char) : Scope :=
  let blank (c : Char) : Bool := scope.separators.contains c
  match names with
  | [] => scope
  | [name] =>
    let trimmed := (line.dropWhile blank).reverse.dropWhile blank
    scope.set name (String.ofList trimmed.reverse)
  | name :: rest =>
    let line := line.dropWhile blank
    let word := line.takeWhile fun c => !blank c
    assignLine (scope.set name (String.ofList word)) rest ((line.drop word.length).drop 1)

/-- Starts the trap of the first signal that came in. -/
def runTrap (s : Shell) : Option Shell :=
  match s.signals with
  | [] => none
  | n :: rest =>
    let s := { s with signals := rest }
    match s.traps.find? fun t => t.1 == n with
    | none => some s
    | some (_, text) =>
      if text == "" then some s
      else some (s.push [.source ⟨text.toList, 1⟩ false, .endTrap s.scope.status])

/-- What is said of a child that a signal has ended. -/
def epitaph (raw : Nat) : List Frame :=
  let n := raw % 128
  if n = 0 || n = Signal.int || n = Signal.pipe then []
  else [.output 2 (Signal.description n ++ "\n")]

/-- Notes that a child in the background has ended. -/
def jobEnded (s : Shell) (pid raw : Nat) : Shell :=
  { s with jobs := s.jobs.filter (· != pid), finished := (pid, raw) :: s.finished }

/-- Does what a frame calls for; the frame is off the stack. -/
def perform (v : View) (s : Shell) (frame : Frame) : Call Shell × (Reply → Shell) :=
  match frame with
  | .source text last =>
    match text.nextCommand with
    | .error e =>
      let s := { s with line := e.line }
      goOn (s.abort 2 [s.complaint ("Syntax error: " ++ e.message)])
    | .ok none => goOn s
    | .ok (some (c, rest)) =>
      if s.hasFlag 'n' then goOn (s.push [.source rest last])
      else if last && rest.lines.rest.isEmpty then goOn (s.push [.exec c false])
      else goOn (s.push [.exec c false, .source rest last])
  | .exec c tested => { s with substitution := none }.execute c tested
  | .fill c tested status =>
    { s with substitution := some s.scope.status }.withStatus status |>.execute
      (filled s.result c) tested
  | .follow success c tested =>
    if (s.scope.status == 0) == success then goOn (s.push [.exec c tested]) else goOn s
  | .negate => goOn (s.withStatus (if s.scope.status = 0 then 1 else 0))
  | .checkError =>
    if s.hasFlag 'e' && s.scope.status ≠ 0 then goOn { s with control := [.leave] } else goOn s
  | .branch yes no tested =>
    if s.scope.status = 0 then goOn (s.push [.exec yes tested])
    else goOn ((s.withStatus 0).push [.exec no tested])
  | .round negated test body tested =>
    goOn (s.push [.exec test true, .tested negated test body tested])
  | .tested negated test body tested =>
    if (s.scope.status == 0) != negated then
      goOn (s.push [.exec body tested, .round negated test body tested])
    else goOn (s.withStatus 0)
  | .each name items body tested =>
    match items with
    | [] => goOn s
    | item :: rest =>
      goOn ({ s with scope := s.scope.set name item }.push
        [.exec body tested, .each name rest body tested])
  | .redirects rs =>
    match rs with
    | [] => goOn s
    | .mk fd op word :: rest =>
      match s.targetOf op word with
      | .error message => goOn (s.cancel message)
      | .ok (target, text) =>
        (.connect fd target, fun reply =>
          match reply with
          | .failed e => s.cancel (redirectComplaint target text e)
          | _ => s.push [.redirects rest])
  | .rewire ops =>
    match ops with
    | [] => goOn s
    | (fd, target) :: rest => (.connect fd target, fun _ => s.push [.rewire rest])
  | .restore => (.restoreDescriptors, fun _ => s)
  | .restoreVars vars => goOn { s with scope := { s.scope with vars := vars } }
  | .builtin name args => goOn (s.builtin v name args)
  | .become args asked => s.become v args asked
  | .start args =>
    (.fork (s.child [.become args false]), fun reply =>
      match reply with
      | .child pid => s.push [.wait [pid] pid]
      | _ => s.withStatus 2)
  | .stages todo input started =>
    match todo with
    | [] => goOn (s.push [.wait started (started.getLast?.getD 0)])
    | [_] => goOn (s.push [.stage todo input none started])
    | _ =>
      (.pipe, fun reply =>
        match reply with
        | .descriptors r w => s.push [.stage todo input (some (r, w)) started]
        | _ => s.withStatus 2)
  | .stage todo input pipe started =>
    match todo with
    | [] => goOn s
    | c :: rest =>
      let take : List (Nat × Target) := match input with
        | some fd => [(0, .descriptor fd), (fd, .nowhere)]
        | none => []
      let give : List (Nat × Target) := match pipe with
        | some (r, w) => [(1, .descriptor w), (w, .nowhere), (r, .nowhere)]
        | none => []
      let close : List (Nat × Target) :=
        (match input with
          | some fd => [(fd, .nowhere)]
          | none => []) ++
        (match pipe with
          | some (_, w) => [(w, .nowhere)]
          | none => [])
      (.fork (s.child [.rewire (take ++ give), .exec c false]), fun reply =>
        match reply with
        | .child pid =>
          s.push [.rewire close, .stages rest (pipe.map Prod.fst) (started ++ [pid])]
        | _ => s.withStatus 2)
  | .wait children last =>
    match children with
    | [] => goOn s
    | _ =>
      (.wait (s.jobs ++ children) false, fun reply =>
        match reply with
        | .exited pid raw =>
          if children.contains pid then
            let s := if pid = last then s.withStatus (statusOf raw) else s
            s.push (epitaph raw ++
              [.setStatus s.scope.status, .wait (children.filter (· != pid)) last])
          else (s.jobEnded pid raw).push [.wait children last]
        | _ => s.withStatus 127)
  | .waitJobs children all =>
    match s.signals, children, all with
    | n :: _, _, _ => goOn (s.withStatus (128 + n))
    | [], _, true =>
      if s.jobs.isEmpty then goOn ({ s with finished := [] }.withStatus 0)
      else
        (.wait s.jobs true, fun reply =>
          match reply with
          | .exited pid raw => (s.jobEnded pid raw).push [.waitJobs [] true]
          | _ => s.withStatus 127)
    | [], [], false => goOn s
    | [], child :: rest, false =>
      match s.finished.find? fun f => f.1 == child with
      | some (_, raw) =>
        goOn ({ s with finished := s.finished.filter fun f => f.1 != child }.withStatus
          (statusOf raw) |>.push [.waitJobs rest false])
      | none =>
        if s.jobs.contains child then
          (.wait s.jobs true, fun reply =>
            match reply with
            | .exited pid raw =>
              let note := if pid = child then epitaph raw else []
              (s.jobEnded pid raw).push (note ++ [.waitJobs children false])
            | _ => s.withStatus 127)
        else goOn ((s.withStatus 127).push [.waitJobs rest false])
  | .substitute c =>
    (.pipe, fun reply =>
      match reply with
      | .descriptors r w => s.push [.substituted c r w]
      | _ => s.withStatus 2)
  | .substituted c r w =>
    let frames : List Frame :=
      [.rewire [(1, .descriptor w), (w, .nowhere), (r, .nowhere)], .exec c false]
    (.fork (s.child frames), fun reply =>
      match reply with
      | .child pid => s.push [.rewire [(w, .nowhere)], .collect r pid []]
      | _ => s.withStatus 2)
  | .collect fd child got =>
    (.read fd 65536, fun reply =>
      match reply with
      | .data bytes =>
        if bytes.isEmpty then
          let chars := (Raw.ofBytes (Bytes.joined got)).toList
          let text := (chars.reverse.dropWhile (· == '\n')).reverse
          { s with result := String.ofList text }.push
            [.rewire [(fd, .nowhere)], .wait [child] child]
        else s.push [.collect fd child (bytes :: got)]
      | _ => s.push [.rewire [(fd, .nowhere)], .wait [child] child])
  | .output fd text =>
    if text == "" then goOn s
    else
      (.write fd text.bytes, fun reply =>
        match reply with
        | .failed _ => s.withStatus 1
        | _ => s)
  | .readLine names raw got =>
    let finish (status : Nat) : Shell :=
      { s with scope := assignLine s.scope names got.reverse }.withStatus status
    (.read 0 1, fun reply =>
      match reply with
      | .data [] => finish 1
      | .data (b :: _) =>
        let c := Char.ofNat b.toNat
        if c == '\n' then
          if !raw && got.head? == some '\\' then s.push [.readLine names raw (got.drop 1)]
          else finish 0
        else s.push [.readLine names raw (c :: got)]
      | _ => finish 1)
  | .endFunction params locals =>
    let scope := locals.foldl (fun scope old => scope.putBack old.1 old.2) s.scope
    goOn { s with scope := { scope with params := params } }
  | .print name text =>
    if text == "" then goOn s
    else
      (.write 1 text.bytes, fun reply =>
        match reply with
        | .failed _ =>
          s.push [s.grumble name (name ++ ": I/O error"), .setStatus 1]
        | _ => s)
  | .endInner _ outer => goOn { s with inner := outer }
  | .endTrap status => goOn (s.withStatus status)
  | .setStatus status => goOn (s.withStatus status)
  | .signals targets =>
    match targets with
    | [] => goOn s
    | (target, n) :: rest =>
      (.signal target n, fun reply =>
        match reply with
        | .failed e =>
          s.push [s.grumble "kill" (e.message ++ "\n"), .signals rest, .setStatus 1]
        | _ => s.push [.signals rest])
  | .dispositions changes =>
    match changes with
    | [] => goOn s
    | (n, d) :: rest => (.dispose n d, fun _ => s.push [.dispositions rest])
  | .changeDirectory path =>
    (.changeDirectory path.bytes, fun reply =>
      match reply with
      | .failed _ => (s.withStatus 2).push [s.grumble "cd" ("can't cd to " ++ path)]
      | _ => s)
  | .include path =>
    (.readFile path.bytes, fun reply =>
      match reply with
      | .data bytes =>
        { s with inner := some path }.push
          [.source ⟨(Raw.ofBytes bytes).toList, 1⟩ false, .endInner true s.inner]
      | _ => s.abort 2 [s.grumble "." ("cannot open " ++ path ++ ": No such file")])
  | .openScript path =>
    (.readFile path.bytes, fun reply =>
      match reply with
      | .data bytes =>
        { s with scope := { s.scope with name := path } }.push
          [.source ⟨(Raw.ofBytes bytes).toList, 1⟩ false]
      | _ =>
        s.abort 2 [.output 2 (s.scope.name ++ ": 0: cannot open " ++ path ++ ": No such file\n")])
  | .inputScript got =>
    (.read 0 65536, fun reply =>
      match reply with
      | .data (b :: bytes) => s.push [.inputScript ((b :: bytes) :: got)]
      | _ => s.push [.source ⟨(Raw.ofBytes (Bytes.joined got)).toList, 1⟩ false])
  | .leave =>
    match s.traps.find? fun t => t.1 == 0 with
    | some (_, text) =>
      goOn { s with
        traps := s.traps.filter fun t => t.1 != 0
        inner := none
        control := [.source ⟨text.toList, 1⟩ false, .endTrap s.scope.status, .leave] }
    | none => (.exit s.scope.status, fun _ => s)

/-- Whether signals that came in are looked at before a frame. -/
def looksAtSignals : Frame → Bool
  | .exec .. => true
  | .source .. => true
  | .round .. => true
  | .each .. => true
  | .leave => true
  | _ => false

def next (v : View) (s : Shell) : Call Shell × (Reply → Shell) :=
  match s.control with
  | [] => (.exit s.scope.status, fun _ => s)
  | frame :: rest =>
    match if looksAtSignals frame then s.runTrap else none with
    | some s => goOn s
    | none => { s with control := rest }.perform v frame

/-- Takes note of a signal that has a trap. -/
def notify (s : Shell) (n : Signal) : Shell := { s with signals := s.signals ++ [n] }

/-! ## Starting a shell -/

/-- Takes in the options of a shell: whether the commands are an argument, and what follows. -/
def startOptions (s : Shell) (commands : Bool) : List Raw → Except Raw (Shell × Bool × List Raw)
  | [] => .ok (s, commands, [])
  | word :: rest =>
    match word.toList with
    | ['-'] => .ok (s, commands, rest)
    | ['-', '-'] => .ok (s, commands, rest)
    | '-' :: flags =>
      match setFlags s true (flags.filter (· != 'c')) rest with
      | .ok (s, used) => startOptions s (commands || flags.contains 'c') (rest.drop used)
      | .error text => .error text
    | _ => .ok (s, commands, word :: rest)
termination_by words => words.length
decreasing_by all_goals exact length_drop_lt _ _ _

/-- Sets a shell to what its arguments ask for: commands, a script, or what it can read. -/
def startControl (s : Shell) (args : List Raw) : Shell :=
  let refuse (text : Raw) : Shell :=
    s.abort 2 [.output 2 (s.scope.name ++ ": 0: " ++ text ++ "\n")]
  match s.startOptions false args with
  | .error text => refuse text
  | .ok (_, true, []) => refuse "-c requires an argument"
  | .ok (s, true, text :: params) =>
    { s with
      control := [.source ⟨text.toList, 1⟩ true, .leave]
      scope := { s.scope with name := params.head?.getD s.scope.name, params := params.drop 1 } }
  | .ok (s, false, words) =>
    let script : List Raw := if s.hasFlag 's' then [] else words.take 1
    let s := { s with scope := { s.scope with params := words.drop script.length } }
    match script with
    | [] => { s with control := [.inputScript [], .leave] }
    | path :: _ => { s with control := [.openScript path, .leave] }

/-- A shell with arguments and an environment. -/
def start (pid parent : Nat) (args : List Raw) (env : List (Raw × Raw)) : Shell :=
  let inherited := env.map fun (name, value) => (name, (⟨value, true, false⟩ : Variable))
  let vars := inherited ++ [("PPID", ⟨toString parent, false, false⟩)]
  let scope : Scope := ⟨vars, args.head?.getD "sh", [], 0, pid, none, ""⟩
  let s : Shell := ⟨scope, [], [], [], [], [], [], 0, none, 0o022, none, ""⟩
  startControl s (args.drop 1)

end Shell

end Curfew.Host
