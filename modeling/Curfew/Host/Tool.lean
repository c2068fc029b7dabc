import Curfew.Host.Call
import Curfew.Host.Shell.Output
import Curfew.Host.Shell.Condition

/-!
# Small programs

The programs that scripts call: they copy, cut, count, repeat or wait. A **`Tool`** works through a
list of **`Job`**s; what it copies goes through a **`Filter`**.
-/

namespace Curfew.Host

open Text (Raw)

/-! ## Filters -/

/-- What becomes of the bytes that a tool copies. -/
inductive Filter
  | copy
  | firstBytes (left : Nat)
  | firstLines (left : Nat)
  | lastBytes (most : Nat) (kept : Bytes)
  | lastLines (most : Nat) (kept : Bytes)
  /-- Replaces bytes, or drops those that have no replacement. -/
  | replace (table : List (UInt8 × Option UInt8))
  | count (lines words bytes : Nat) (inWord : Bool)
deriving Repr

namespace Filter

def lineFeed : UInt8 := 10

/-- The first `n` lines, and the number of lines still to come. -/
def takeLines : Nat → Bytes → Bytes → Bytes × Nat
  | 0, _, got => (got.reverse, 0)
  | n + 1, [], got => (got.reverse, n + 1)
  | n + 1, b :: rest, got =>
    if b == lineFeed then takeLines n rest (b :: got) else takeLines (n + 1) rest (b :: got)
termination_by _ bytes _ => bytes.length

/-- The last `n` lines. -/
def dropToLast (n : Nat) (bytes : Bytes) : Bytes :=
  let ended := bytes.getLast? == some lineFeed
  let wanted := if ended then n + 1 else n
  let rec go : Bytes → Nat → Bytes → Bytes
    | [], _, got => got
    | b :: rest, left, got =>
      if b == lineFeed then
        match left with
        | 0 => got
        | left + 1 => if left = 0 then got else go rest left (b :: got)
      else go rest left (b :: got)
  if n = 0 then [] else go bytes.reverse wanted []

def isBlankByte (b : UInt8) : Bool := b == 32 || (9 ≤ b && b ≤ 13)

/-- Takes in some bytes: what to write, the filter afterwards, and whether it has had enough. -/
def feed (f : Filter) (bytes : Bytes) : Bytes × Filter × Bool :=
  match f with
  | .copy => (bytes, .copy, false)
  | .firstBytes left =>
    let out := bytes.take left
    let left := left - bytes.length
    (out, .firstBytes left, left == 0)
  | .firstLines left =>
    let (out, left) := takeLines left bytes []
    (out, .firstLines left, left == 0)
  | .lastBytes most kept =>
    let kept := kept ++ bytes
    ([], .lastBytes most (kept.drop (kept.length - most)), false)
  | .lastLines most kept => ([], .lastLines most (dropToLast most (kept ++ bytes)), false)
  | .replace table =>
    let out := bytes.filterMap fun b =>
      match table.find? fun row => row.1 == b with
      | some row => row.2
      | none => some b
    (out, f, false)
  | .count lines words total inWord =>
    let step (s : Nat × Nat × Bool) (b : UInt8) : Nat × Nat × Bool :=
      let (l, w, inWord) := s
      let l := if b == lineFeed then l + 1 else l
      if isBlankByte b then (l, w, false) else (l, if inWord then w else w + 1, true)
    let (l, w, inWord) := bytes.foldl step (lines, words, inWord)
    ([], .count l w (total + bytes.length) inWord, false)

def finish (f : Filter) : Bytes :=
  match f with
  | .lastBytes _ kept => kept
  | .lastLines _ kept => kept
  | _ => []

/-- Whether the filter needs no input at all. -/
def isFull (f : Filter) : Bool :=
  match f with
  | .firstBytes left => left == 0
  | .firstLines left => left == 0
  | _ => false

end Filter

/-! ## Jobs -/

structure Counts where
  lines : Bool
  words : Bool
  bytes : Bool

/-- Something that a tool still has to do. -/
inductive Job
  | write (fd : Nat) (text : Raw)
  | openInput (path : Raw)
  /-- Copies from a descriptor until its end. -/
  | pump (fd : Nat)
  | emit (bytes : Bytes)
  | finish
  | report (which : Counts)
  | sleep (nanos : Nat)
  | forever (bytes : Bytes)
  | become (args : List Raw) (env : List (Raw × Raw))
  | newSession
  /-- Hands everything else over to a child. -/
  | detach
  | ignore (s : Signal)
  | send (target : Int) (s : Signal)
  /-- Changes the tree of files; only with `must` is a failure one. -/
  | change (path : Raw) (change : FileChange) (must : Bool)
  | openOutput (path : Raw)
  /-- Lists what is in a directory, hidden names only with `all`. -/
  | list (path : Raw) (all : Bool)
  | exit
  | test (words : List Raw)
  | readLink (path : Raw)
  | workingDirectory

/-- The state of a tool. It calls itself by the name it was started under. -/
structure Tool where
  name : Raw
  jobs : List Job
  filter : Filter
  status : Nat

namespace Tool

/-- A tool that only does some jobs. -/
def doing (name : Raw) (jobs : List Job) : Tool := ⟨name, jobs ++ [.exit], .copy, 0⟩

def failing (name : Raw) (status : Nat) (text : String) : Tool :=
  ⟨name, [.write 2 text, .exit], .copy, status⟩

/-- A tool that copies files, or what it is given, through a filter. -/
def filtering (name : Raw) (filter : Filter) (files : List Raw) (after : List Job) : Tool :=
  let jobs := if files.isEmpty then [Job.pump 0] else
    files.flatMap fun path => if path == "-" then [Job.pump 0] else [.openInput path]
  ⟨name, jobs ++ after ++ [.exit], filter, 0⟩

/-- Words that are not options. -/
def operands (args : List Raw) : List Raw :=
  args.filter fun word => !(word.startsWith "-" && word != "-")

/-- The command after the first options; its own options are not theirs. -/
def commandOf (args : List Raw) : List Raw := args.dropWhile fun word => word.startsWith "-"

/-- The arguments of `nice` without an adjustment that is a word of its own. -/
def withoutAdjustment : List Raw → List Raw
  | "-n" :: _ :: rest => rest
  | args => args

/-- A number with a suffix for its size. -/
def sizeOf? (word : Raw) : Option Nat :=
  let cs := word.toList.dropWhile (· == ' ')
  let ds := cs.takeWhile Char.isDigit
  let n := ds.foldl (fun n c => n * 10 + (c.toNat - 48)) 0
  if ds.isEmpty then none
  else
    match cs.drop ds.length with
    | [] => some n
    | ['b'] => some (n * 512)
    | ['k'] | ['K'] => some (n * 1024)
    | ['M'] => some (n * 1048576)
    | ['k', 'B'] => some (n * 1000)
    | _ => none

/-- The number of nanoseconds of a time such as `0.05` or `2m`. -/
def timeOf? (word : Raw) : Option Nat :=
  let cs := word.toList
  let whole := cs.takeWhile Char.isDigit
  let after := cs.drop whole.length
  let (places, suffix) := match after with
    | '.' :: rest => (rest.takeWhile Char.isDigit, rest.dropWhile Char.isDigit)
    | rest => ([], rest)
  let digits := whole ++ places
  let unit : Option Nat := match suffix with
    | [] | ['s'] => some 1
    | ['m'] => some 60
    | ['h'] => some 3600
    | ['d'] => some 86400
    | _ => none
  if digits.isEmpty then none
  else
    let n := digits.foldl (fun n c => n * 10 + (c.toNat - 48)) 0
    unit.map fun u => n * u * 1000000000 / Nat.pow 10 places.length

/-- The options of `head` and `tail`: bytes or lines, how many, and the files. -/
def countArgs : List Raw → Bool × Option Nat → List Raw → Bool × Option Nat × List Raw
  | [], got, files => (got.1, got.2, files)
  | "-n" :: n :: rest, _, files => countArgs rest (false, sizeOf? n) files
  | "-c" :: n :: rest, _, files => countArgs rest (true, sizeOf? n) files
  | word :: rest, got, files =>
    match word.toList with
    | '-' :: 'n' :: ds => countArgs rest (false, sizeOf? (String.ofList ds)) files
    | '-' :: 'c' :: ds => countArgs rest (true, sizeOf? (String.ofList ds)) files
    | '-' :: d :: ds =>
      if d.isDigit then countArgs rest (false, sizeOf? (String.ofList (d :: ds))) files
      else countArgs rest got files
    | _ => countArgs rest got (files ++ [word])

/-- The bytes of a set of `tr`: escapes, ranges and classes. -/
def trSet : Nat → List Char → List Nat
  | 0, _ => []
  | _ + 1, [] => []
  | fuel + 1, cs =>
    let range (a b : Nat) : List Nat := (List.range (b + 1 - a)).map (· + a)
    let one : Nat × List Char :=
      match cs with
      | '\\' :: c :: rest =>
        if '0' ≤ c && c ≤ '7' then
          let (n, rest) := Shell.Output.octal 3 (c :: rest)
          (n % 256, rest)
        else (((Shell.Output.letterEscape? c).getD c).toNat, rest)
      | c :: rest => (c.toNat, rest)
      | [] => (0, [])
    match cs with
    | '[' :: ':' :: 'u' :: 'p' :: 'p' :: 'e' :: 'r' :: ':' :: ']' :: rest =>
      range 65 90 ++ trSet fuel rest
    | '[' :: ':' :: 'l' :: 'o' :: 'w' :: 'e' :: 'r' :: ':' :: ']' :: rest =>
      range 97 122 ++ trSet fuel rest
    | '[' :: ':' :: 'd' :: 'i' :: 'g' :: 'i' :: 't' :: ':' :: ']' :: rest =>
      range 48 57 ++ trSet fuel rest
    | '[' :: ':' :: 's' :: 'p' :: 'a' :: 'c' :: 'e' :: ':' :: ']' :: rest =>
      [9, 10, 11, 12, 13, 32] ++ trSet fuel rest
    | _ =>
      match one.2 with
      | '-' :: e :: rest => range one.1 e.toNat ++ trSet fuel rest
      | rest => one.1 :: trSet fuel rest

/-- What `tr` replaces by what: the second set is lengthened by its last byte. -/
def trTable (source target : List Nat) (delete : Bool) : List (UInt8 × Option UInt8) :=
  let last := target.getLast?.getD 0
  let pairs := source.zip (List.range source.length)
  pairs.map fun (b, i) =>
    (UInt8.ofNat b, if delete then none else some (UInt8.ofNat ((target[i]?).getD last)))

/-- The numbers from `first` to `last`, a line each. -/
def seqLines (first step last : Int) : Raw :=
  let count : Int :=
    if 0 < step then (last - first) / step + 1
    else if step < 0 then (first - last) / (-step) + 1
    else 0
  String.ofList ((List.range count.toNat).flatMap fun (i : Nat) =>
    (toString (first + step * (i : Int))).toList ++ ['\n'])

/-- Some text repeated up to about the size of a buffer. -/
def blockOf (line : Bytes) : Bytes :=
  (List.replicate (8192 / max 1 line.length) line).flatten

/-- The words of a text between blanks. -/
def wordsOf (text : Raw) : List Raw := (text.splitOn " ").filter (· != "")

/-- What follows a dash and a letter in a word. -/
def afterFlag? (flag : Char) (word : Raw) : Option Raw :=
  match word.toList with
  | '-' :: c :: rest => if c == flag then some (String.ofList rest) else none
  | _ => none

/-- The environment for a command of `env`, and the command. -/
def envArgs : Nat → List (Raw × Raw) → List Raw → List (Raw × Raw) × List Raw
  | 0, env, words => (env, words)
  | _ + 1, env, [] => (env, [])
  | fuel + 1, env, word :: rest =>
    if word == "-i" || word == "-" then envArgs fuel [] rest
    else if word == "-u" then
      envArgs fuel (env.filter fun e => e.1 != rest.head?.getD "") (rest.drop 1)
    else
      match afterFlag? 'S' word with
      | some text => envArgs fuel env (wordsOf text ++ rest)
      | none =>
        let name := word.toList.takeWhile (· != '=')
        match word.toList.drop name.length with
        | _ :: value =>
          let name := String.ofList name
          envArgs fuel (env.filter (fun e => e.1 != name) ++ [(name, String.ofList value)]) rest
        | [] => (env, word :: rest)

def baseName (path : Raw) : Raw :=
  ((path.splitOn "/").filter (· != "")).getLast?.getD "/"

/-- The path without its last name. -/
def dirName (path : Raw) : Raw :=
  let parts := path.splitOn "/"
  let before := parts.dropLast
  if parts.length < 2 then "."
  else if before.all (· == "") then "/"
  else String.intercalate "/" before

/-- The path of a directory and those of all that lie above it, the uppermost first. -/
def ancestors (path : Raw) : List Raw :=
  let parts := path.splitOn "/"
  let paths := (List.range parts.length).map fun n => String.intercalate "/" (parts.take (n + 1))
  paths.filter (· != "")

/-- The value of an operand such as `bs=512`. -/
def setting? (key : Raw) (args : List Raw) : Option Raw :=
  args.findSome? fun word =>
    if word.startsWith (key ++ "=") then some (word.drop (key.length + 1)).toString else none

/-- What a comparison or sum of two operands comes to. -/
def reckon (a op b : Raw) : Option Raw :=
  let (x, xRest) := Shell.Arithmetic.signedNumber a.toList
  let (y, yRest) := Shell.Arithmetic.signedNumber b.toList
  let numbers := xRest.isEmpty && yRest.isEmpty
  let truth (b : Bool) : Option Raw := some (if b then "1" else "0")
  let whole (n : Int) : Option Raw := if numbers then some (toString n) else none
  match op with
  | "+" => whole (x + y)
  | "-" => whole (x - y)
  | "*" => whole (x * y)
  | "/" => if y = 0 then none else whole (Int.tdiv x y)
  | "%" => if y = 0 then none else whole (Int.tmod x y)
  | "=" => truth (if numbers then x = y else a = b)
  | "!=" => truth (if numbers then x ≠ y else a ≠ b)
  | "<" => truth (if numbers then x < y else a < b)
  | "<=" => truth (if numbers then x ≤ y else a ≤ b)
  | ">" => truth (if numbers then y < x else b < a)
  | ">=" => truth (if numbers then y ≤ x else b ≤ a)
  | _ => none

/-- Says that an option or operand is missing. -/
def hint (name : Raw) : Raw := "Try '" ++ name ++ " --help' for more information.\n"

/-- The tool of a name, with the name it goes by and its arguments. -/
def start (tool : String) (name : Raw) (args : List Raw) (env : List (Raw × Raw)) : Tool :=
  let has (c : Char) : Bool := args.any fun word => word.startsWith "-" && word.contains c
  match tool with
  | "true" => doing name []
  | "false" => ⟨name, [.exit], .copy, 1⟩
  | "echo" => doing name [.write 1 (Shell.Output.echo args)]
  | "printf" =>
    doing name
      [.write 1 (String.ofList (Shell.Output.printf (args.head?.getD "") (args.drop 1)).text)]
  | "test" => ⟨name, [.test args], .copy, 0⟩
  | "[" => ⟨name, [.test args.dropLast], .copy, 0⟩
  | "expr" =>
    match args with
    | [a, op, b] =>
      match reckon a op b with
      | some text => ⟨name, [.write 1 (text ++ "\n"), .exit], .copy, if text == "0" then 1 else 0⟩
      | none => failing name 2 (name ++ ": non-integer argument\n")
    | [a] => ⟨name, [.write 1 (a ++ "\n"), .exit], .copy, if a == "" || a == "0" then 1 else 0⟩
    | _ => failing name 2 (name ++ ": missing operand\n" ++ hint name)
  | "sleep" =>
    match args with
    | [] => failing name 1 (name ++ ": missing operand\n" ++ hint name)
    | _ =>
      match args.find? fun word => (timeOf? word).isNone with
      | some word =>
        failing name 1 (name ++ ": invalid time interval '" ++ word ++ "'\n" ++ hint name)
      | none => doing name [.sleep ((args.filterMap timeOf?).foldl (· + ·) 0)]
  | "cat" => filtering name .copy (operands args) []
  | "tee" => filtering name .copy [] []
  | "dd" =>
    let bytes := ((setting? "bs" args).bind sizeOf?).getD 512
    let filter := match (setting? "count" args).bind sizeOf? with
      | some n => Filter.firstBytes (n * bytes)
      | none => .copy
    let input := match setting? "if" args with
      | some path => Job.openInput path
      | none => .pump 0
    ⟨name, ((setting? "of" args).map Job.openOutput).toList ++ [input, .exit], filter, 0⟩
  | "head" =>
    let (bytes, n, files) := countArgs args (false, some 10) []
    filtering name (if bytes then .firstBytes (n.getD 0) else .firstLines (n.getD 0)) files []
  | "tail" =>
    let (bytes, n, files) := countArgs args (false, some 10) []
    filtering name (if bytes then .lastBytes (n.getD 0) [] else .lastLines (n.getD 0) []) files
      [.finish]
  | "tr" =>
    let delete := args.contains "-d"
    let sets := (operands args).map fun set => trSet (set.length + 1) set.toList
    let table := trTable ((sets[0]?).getD []) ((sets[1]?).getD []) delete
    filtering name (.replace table) [] []
  | "wc" =>
    let all := !(has 'l' || has 'w' || has 'c')
    filtering name (.count 0 0 0 false) (operands args)
      [.report ⟨all || has 'l', all || has 'w', all || has 'c'⟩]
  | "yes" =>
    let line := if args.isEmpty then "y" else String.intercalate " " args
    doing name [.forever (blockOf (Raw.bytes (line ++ "\n")))]
  | "seq" =>
    match (operands args).map fun word => (Shell.Arithmetic.signedNumber word.toList).1 with
    | [last] => doing name [.write 1 (seqLines 1 1 last)]
    | [first, last] => doing name [.write 1 (seqLines first 1 last)]
    | [first, step, last] => doing name [.write 1 (seqLines first step last)]
    | _ => failing name 1 (name ++ ": missing operand\n" ++ hint name)
  | "env" =>
    let fuel := (args.map String.length).foldl (· + ·) args.length + 1
    match envArgs fuel env args with
    | (env, []) => doing name [.write 1 (String.join (env.map fun e => e.1 ++ "=" ++ e.2 ++ "\n"))]
    | (env, command) => doing name [.become command env]
  | "printenv" =>
    match operands args with
    | [] => doing name [.write 1 (String.join (env.map fun e => e.1 ++ "=" ++ e.2 ++ "\n"))]
    | wanted =>
      let values := wanted.filterMap fun key => (env.find? fun e => e.1 == key).map Prod.snd
      ⟨name, [.write 1 (String.join (values.map (· ++ "\n"))), .exit], .copy,
        if values.length = wanted.length then 0 else 1⟩
  | "nohup" => doing name [.ignore Signal.hup, .become args env]
  | "setsid" => doing name [.newSession, .become (commandOf args) env]
  | "nice" => doing name [.become (commandOf (withoutAdjustment args)) env]
  | "stdbuf" => doing name [.become (commandOf args) env]
  | "kill" =>
    let target := (args.getLast?.bind String.toInt?).getD 0
    let s := (args.head?.bind fun word =>
      match word.toList with
      | '-' :: cs => (String.ofList cs).toNat?.orElse fun () => Signal.ofName? (String.ofList cs)
      | _ => none).getD Signal.term
    doing name [.send target s]
  | "readlink" => ⟨name, [.readLink ((operands args).getLast?.getD "")], .copy, 0⟩
  | "pwd" => ⟨name, [.workingDirectory], .copy, 0⟩
  | "tty" => ⟨name, [.write 1 (if has 's' then "" else "not a tty\n"), .exit], .copy, 1⟩
  | "basename" =>
    let bare := baseName (args.head?.getD "")
    let ending := (args[1]?).getD ""
    let short :=
      if bare.endsWith ending && bare != ending then (bare.dropEnd ending.length).toString else bare
    doing name [.write 1 (short ++ "\n")]
  | "dirname" => doing name [.write 1 (dirName (args.head?.getD "") ++ "\n")]
  | "ls" =>
    let paths := operands args
    let paths := if paths.isEmpty then ["."] else paths
    doing name (paths.map fun path => .list path (has 'a' || has 'A'))
  | "touch" => doing name ((operands args).map fun path => .change path .touch true)
  | "mkdir" =>
    doing name (if has 'p' then
        ((operands args).flatMap ancestors).map fun path => .change path .makeDirectory false
      else (operands args).map fun path => .change path .makeDirectory true)
  | "rmdir" => doing name ((operands args).map fun path => .change path .removeDirectory true)
  | "rm" =>
    let change := if has 'r' || has 'R' then FileChange.removeTree else .remove
    doing name ((operands args).map fun path => .change path change (!has 'f'))
  | "whoami" => doing name [.write 1 "root\n"]
  | "id" => doing name [.write 1 (if args.isEmpty then "uid=0(root) gid=0(root) groups=0(root)\n"
      else if has 'n' then "root\n" else "0\n")]
  | "uname" => doing name [.write 1 "Linux\n"]
  | _ => doing name []

def names : List String :=
  ["true", "false", "echo", "printf", "test", "[", "expr", "sleep", "cat", "tee", "dd", "head",
   "tail", "tr", "wc", "yes", "seq", "env", "printenv", "nohup", "setsid", "nice", "stdbuf", "kill",
   "readlink", "pwd", "tty", "basename", "dirname", "ls", "touch", "mkdir", "rmdir", "rm", "whoami",
   "id", "uname"]

/-- A complaint of a tool about a file. -/
def complaint (t : Tool) (what : Raw) (e : Errno) : Job :=
  .write 2 (t.name ++ ": " ++ what ++ ": " ++ e.message ++ "\n")

/-- The tool that gives up over something. -/
def givingUp (t : Tool) (what : Raw) (e : Errno) : Tool :=
  { t with jobs := [t.complaint what e, .exit], status := 1 }

/-- The tool with more to do first. -/
def push (t : Tool) (jobs : List Job) : Tool := { t with jobs := jobs ++ t.jobs }

/-- The counts that are reported, set apart by blanks where there are several. -/
def countText (which : Counts) (lines words bytes : Nat) : Raw :=
  let chosen := (if which.lines then [lines] else []) ++ (if which.words then [words] else []) ++
    (if which.bytes then [bytes] else [])
  match chosen with
  | [n] => toString n
  | _ =>
    let cell (n : Nat) : Raw :=
      let s := toString n
      String.ofList (List.replicate (7 - s.length) ' ') ++ s
    String.intercalate " " (chosen.map cell)

def linkTarget? (v : View) (path : Raw) : Option Bytes :=
  match v.files.locate v.cwd path.bytes false false with
  | .ok place =>
    match v.files.find? place with
    | some (.link target) => some target
    | _ => none
  | .error _ => none

/-- The names in a directory, in order, or the path of anything else. -/
def listing (v : View) (path : Raw) (all : Bool) : Except Errno (List Raw) := do
  let (place, node) ← v.files.lookup v.cwd path.bytes
  match node with
  | .directory =>
    let names := (v.files.namesIn place).map Raw.ofBytes
    return (names.filter fun name => all || !name.startsWith ".").mergeSort fun a b => a ≤ b
  | _ => return [path]

/-- What a tool says that it could not do. -/
def refusal : FileChange → Raw
  | .touch => "cannot touch"
  | .makeDirectory => "cannot create directory"
  | .removeDirectory => "failed to remove"
  | .remove => "cannot remove"
  | .removeTree => "cannot remove"

/-- What a tool says when it cannot become a program. -/
def becomeRefusal (tool program : Raw) : Raw :=
  match baseName tool with
  | "nohup" => "failed to run command '" ++ program ++ "'"
  | "stdbuf" => "failed to run command '" ++ program ++ "'"
  | "setsid" => "failed to execute " ++ program
  | _ => "'" ++ program ++ "'"

/-- Does a job; the job is off the list. -/
def perform (v : View) (t : Tool) (job : Job) : Call Tool × (Reply → Tool) :=
  let goOn (t : Tool) : Call Tool × (Reply → Tool) := (.compute, fun _ => t)
  match job with
  | .write fd text =>
    if text == "" then goOn t
    else
      (.write fd text.bytes, fun reply =>
        match reply with
        | .failed e =>
          if fd = 1 then t.givingUp "write error" e else t
        | _ => t)
  | .emit bytes =>
    if bytes.isEmpty then goOn t
    else
      (.write 1 bytes, fun reply =>
        match reply with
        | .failed e => t.givingUp "write error" e
        | _ => t)
  | .openInput path =>
    if t.filter.isFull then goOn t
    else
      (.connect 9 (.path path.bytes .read), fun reply =>
        match reply with
        | .failed e =>
          let what := match baseName t.name with
            | "cat" => path
            | "wc" => path
            | "dd" => "failed to open '" ++ path ++ "'"
            | _ => "cannot open '" ++ path ++ "' for reading"
          { t with status := 1 }.push [t.complaint what e]
        | _ => t.push [.pump 9])
  | .pump fd =>
    if t.filter.isFull then goOn t
    else
      (.read fd 65536, fun reply =>
        match reply with
        | .data bytes =>
          if bytes.isEmpty then t
          else
            let (out, filter, enough) := t.filter.feed bytes
            { t with filter := filter }.push (.emit out :: if enough then [] else [.pump fd])
        | .failed e => { t with status := 1 }.push [t.complaint "-" e]
        | _ => t)
  | .finish => goOn (t.push [.emit t.filter.finish])
  | .report which =>
    match t.filter with
    | .count lines words bytes _ =>
      goOn (t.push [.write 1 (countText which lines words bytes ++ "\n")])
    | _ => goOn t
  | .sleep nanos => (.sleep nanos, fun _ => t)
  | .forever bytes =>
    (.write 1 bytes, fun reply =>
      match reply with
      | .failed e => t.givingUp "standard output" e
      | _ => t.push [.forever bytes])
  | .become args env =>
    let name := args.head?.getD ""
    let searchPath := ((env.find? fun e => e.1 == "PATH").map Prod.snd).getD "/usr/bin:/bin"
    let found := (v.findCommand searchPath name).getD ("/" ++ name)
    let path := if name.contains '/' then name else found
    (.exec path.bytes args env, fun reply =>
      match reply with
      | .failed e =>
        { t with
          jobs := [t.complaint (becomeRefusal t.name name) e, .exit]
          status := if e = .noEntry then 127 else 126 }
      | _ => t)
  | .newSession =>
    (.newSession, fun reply =>
      match reply with
      | .failed _ => t.push [.detach]
      | _ => t)
  | .detach => (.fork (t.push [.newSession]), fun _ => { t with jobs := [.exit] })
  | .ignore s => (.dispose s .ignore, fun _ => t)
  | .send target s =>
    (.signal target s, fun reply =>
      match reply with
      | .failed _ => { t with status := 1 }
      | _ => t)
  | .openOutput path =>
    (.connect 1 (.path path.bytes .truncate), fun reply =>
      match reply with
      | .failed e => t.givingUp ("failed to open '" ++ path ++ "'") e
      | _ => t)
  | .change path change must =>
    (.changeFile path.bytes change, fun reply =>
      match reply with
      | .failed e =>
        let what := refusal change ++ " '" ++ path ++ "'"
        if must then { t with status := 1 }.push [t.complaint what e] else t
      | _ => t)
  | .list path all =>
    match listing v path all with
    | .ok names => goOn (t.push [.write 1 (String.join (names.map (· ++ "\n")))])
    | .error e =>
      let what := "cannot access '" ++ path ++ "'"
      goOn ({ t with status := 2 }.push [t.complaint what e])
  | .exit => (.exit t.status, fun _ => t)
  | .test words =>
    match Shell.Condition.holds v (words.length + 1) words with
    | .ok b => goOn { t with jobs := [.exit], status := if b then 0 else 1 }
    | .error _ => goOn { t with jobs := [.exit], status := 2 }
  | .readLink path =>
    match linkTarget? v path with
    | some target => goOn { t with jobs := [.write 1 (Raw.ofBytes target ++ "\n"), .exit] }
    | none => goOn { t with jobs := [.exit], status := 1 }
  | .workingDirectory =>
    goOn { t with jobs := [.write 1 (Raw.ofBytes (Files.render v.cwd) ++ "\n"), .exit] }

def next (v : View) (t : Tool) : Call Tool × (Reply → Tool) :=
  match t.jobs with
  | [] => (.exit t.status, fun _ => t)
  | job :: rest => { t with jobs := rest }.perform v job

end Tool

end Curfew.Host
