import Curfew.Host.Shell.Syntax

/-!
# Reading shell commands

**`Source.nextCommand`** reads the commands of one line, or of as many lines as they take, and
leaves the rest: a shell carries out what it has read before it reads on. The readers below call
each other with ever less fuel, of which the length of the text gives enough.
-/

namespace Curfew.Host.Shell

open Text (Raw)

/-- Text still to be read, and the number of its line. -/
structure Source where
  rest : List Char
  line : Nat

structure SyntaxError where
  line : Nat
  message : String

/-- A reader of `α`. -/
abbrev Parse (α : Type) := Source → Except SyntaxError (α × Source)

/-- Where the parts of a word stand, which decides what is special among them. -/
inductive Context
  | word
  | double
  /-- In braces; `quoted` within double quotes. -/
  | braces (quoted : Bool)
  /-- In an arithmetic expression, within so many parentheses. -/
  | arith (depth : Nat)

/-- Whether text in a context is quoted. -/
def Context.quoted : Context → Bool
  | .word => false
  | .double => true
  | .braces quoted => quoted
  | .arith _ => true

def isMeta (c : Char) : Bool :=
  c == ' ' || c == '\t' || c == '\n' || c == ';' || c == '&' || c == '|' || c == '<' || c == '>' ||
    c == '(' || c == ')'

def isNameStart (c : Char) : Bool := c.isAlpha || c == '_'

def isNameChar (c : Char) : Bool := c.isAlphanum || c == '_'

def isName (s : Raw) : Bool :=
  match s.toList with
  | [] => false
  | c :: rest => isNameStart c && rest.all isNameChar

def isSpecialParam (c : Char) : Bool :=
  c.isDigit || c == '@' || c == '*' || c == '#' || c == '?' || c == '-' || c == '$' || c == '!'

namespace Source

/-- The source past its first `n` characters. -/
def drop (s : Source) (n : Nat) : Source :=
  ⟨s.rest.drop n, s.line + (s.rest.take n).count '\n'⟩

def fail {α : Type} (s : Source) (message : String) : Except SyntaxError α :=
  .error ⟨s.line, message⟩

/-- An error that shows only at the end of the text. -/
def failAtEnd {α : Type} (s : Source) (message : String) : Except SyntaxError α :=
  .error ⟨s.line + s.rest.count '\n', message⟩

/-- Past blanks, continued lines and a comment. -/
def skipBlanks : Nat → Source → Source
  | 0, s => s
  | fuel + 1, s =>
    match s.rest with
    | ' ' :: rest => skipBlanks fuel ⟨rest, s.line⟩
    | '\t' :: rest => skipBlanks fuel ⟨rest, s.line⟩
    | '\\' :: '\n' :: rest => skipBlanks fuel ⟨rest, s.line + 1⟩
    | '#' :: rest => ⟨rest.dropWhile (· != '\n'), s.line⟩
    | _ => s

/-- Past blanks and comments. -/
def blanks (s : Source) : Source := s.skipBlanks (s.rest.length + 1)

/-- Past blanks, comments and line ends. -/
def skipLines : Nat → Source → Source
  | 0, s => s
  | fuel + 1, s =>
    let s := s.blanks
    match s.rest with
    | '\n' :: rest => skipLines fuel ⟨rest, s.line + 1⟩
    | _ => s

/-- Past blanks, comments and line ends. -/
def lines (s : Source) : Source := s.skipLines (s.rest.length + 1)

/-- Whether a reserved word stands here, as a word of its own. -/
def at_ (s : Source) (word : String) : Bool :=
  word.toList.isPrefixOf s.rest && ((s.rest.drop word.length).head?.map isMeta).getD true

def sees (s : Source) (chars : String) : Bool := chars.toList.isPrefixOf s.rest

end Source

/-- Adds a character to the last part, where that is text of the same sort; parts are kept newest
first. -/
def addChar (parts : List Part) (c : Char) (quoted : Bool) : List Part :=
  match parts with
  | .text s q :: earlier =>
    if q == quoted then .text (s.push c) q :: earlier else .text c.toString quoted :: parts
  | _ => .text c.toString quoted :: parts

def addText (parts : List Part) (s : Raw) (quoted : Bool) : List Part := .text s quoted :: parts

/-- The text of a command in backquotes, and what follows it. Within, a backslash is dropped before
a dollar, a backquote and another backslash. -/
def backquoted : List Char → List Char → Option (List Char × List Char)
  | _, [] => none
  | got, '`' :: rest => some (got.reverse, rest)
  | got, '\\' :: c :: rest =>
    if c == '$' || c == '`' || c == '\\' then backquoted (c :: got) rest
    else backquoted (c :: '\\' :: got) rest
  | got, c :: rest => backquoted (c :: got) rest

/-- The form of a parameter expansion, past the name; the number of characters that tell it. -/
def paramForm : List Char → Option (ParamForm × Nat)
  | ':' :: '-' :: _ => some (.fallback true, 2)
  | '-' :: _ => some (.fallback false, 1)
  | ':' :: '=' :: _ => some (.assign true, 2)
  | '=' :: _ => some (.assign false, 1)
  | ':' :: '?' :: _ => some (.complain true, 2)
  | '?' :: _ => some (.complain false, 1)
  | ':' :: '+' :: _ => some (.instead true, 2)
  | '+' :: _ => some (.instead false, 1)
  | '#' :: '#' :: _ => some (.trimStart true, 2)
  | '#' :: _ => some (.trimStart false, 1)
  | '%' :: '%' :: _ => some (.trimEnd true, 2)
  | '%' :: _ => some (.trimEnd false, 1)
  | _ => none

/-- The words that end a list of commands where a command could begin. -/
def closers : List String :=
  ["then", "else", "elif", "fi", "do", "done", "esac", "\x7d"]

/-- Whether a list of commands ends here. -/
def listEnds (s : Source) : Bool :=
  s.rest.isEmpty || s.sees ")" || s.sees ";;" || closers.any s.at_

/-- The lines of a text up to a line that is `delimiter`, and the rest; leading tabs are dropped
with `tabs`. -/
def hereLines (delimiter : List Char) (tabs : Bool) :
    Nat → List Char → List Char → List Char × List Char
  | 0, got, rest => (got, rest)
  | fuel + 1, got, rest =>
    if rest.isEmpty then (got, rest)
    else
      let whole := rest.takeWhile (· != '\n')
      let line := if tabs then whole.dropWhile (· == '\t') else whole
      let after := (rest.dropWhile (· != '\n')).drop 1
      if line == delimiter then (got, after)
      else hereLines delimiter tabs fuel (got ++ line ++ ['\n']) after

/-- The characters of a word that is taken as it stands, quotes removed, and whether it had any. -/
def plainWord (parts : List Part) : List Char × Bool :=
  (parts.flatMap fun part =>
      match part with
      | .text s _ => s.toList
      | _ => [],
    parts.any fun part =>
      match part with
      | .text _ quoted => quoted
      | _ => false)

/-- The words that a command can begin with only as the syntax says. -/
def reservedWords : List String :=
  ["!", "case", "do", "done", "elif", "else", "esac", "fi", "for", "if", "in", "then", "until",
   "while", "\x7b", "\x7d"]

/-- What stands here, as it is called in messages. -/
def Source.token (s : Source) : String :=
  match s.rest with
  | [] => "end of file"
  | '\n' :: _ => "newline"
  | '&' :: '&' :: _ => "\"&&\""
  | '|' :: '|' :: _ => "\"||\""
  | ';' :: ';' :: _ => "\";;\""
  | '<' :: _ => "redirection"
  | '>' :: _ => "redirection"
  | c :: rest =>
    let word := String.ofList ((c :: rest).takeWhile fun c => !isMeta c)
    if isMeta c then "\"" ++ c.toString ++ "\""
    else if reservedWords.contains word then "\"" ++ word ++ "\""
    else "word"

/-- Says that what stands here cannot stand here. -/
def Source.unexpected {α : Type} (s : Source) (hint : String) : Except SyntaxError α :=
  let s := s.blanks
  let line := if s.sees "\n" then s.line + 1 else s.line
  .error ⟨line, s.token ++ " unexpected" ++ hint⟩

/-- Says that something else was expected here. -/
def Source.expecting {α : Type} (s : Source) (token : String) : Except SyntaxError α :=
  s.unexpected (" (expecting \"" ++ token ++ "\")")

mutual

/-- The parts of a word in a context, kept newest first in `got`. What ends them stays. -/
def readParts (fuel : Nat) (ctx : Context) (got : List Part) (s : Source) :
    Except SyntaxError (List Part × Source) :=
  match fuel with
  | 0 => s.fail "too deep"
  | fuel + 1 =>
    match s.rest with
    | [] =>
      match ctx with
      | .word => .ok (got.reverse, s)
      | .double => s.fail "Unterminated quoted string"
      | .braces true => s.fail "Unterminated quoted string"
      | .braces false => s.fail "Missing '\x7d'"
      | .arith _ => s.fail "Missing '))'"
    | c :: rest =>
      let plain : Except SyntaxError (List Part × Source) :=
        readParts fuel ctx (addChar got c ctx.quoted) (s.drop 1)
      let ends : Bool :=
        match ctx with
        | .word => isMeta c
        | .double => c == '"'
        | .braces _ => c == '\x7d'
        | .arith depth => depth == 0 && c == ')'
      if ends then .ok (got.reverse, s)
      else
        match c with
        | '\\' =>
          match rest with
          | '\n' :: _ => readParts fuel ctx got (s.drop 2)
          | e :: _ =>
            let special := e == '$' || e == '`' || e == '"' || e == '\\' || e == '\x7d'
            if ctx.quoted && !special then
              readParts fuel ctx (addChar (addChar got c true) e true) (s.drop 2)
            else readParts fuel ctx (addChar got e true) (s.drop 2)
          | [] => plain
        | '\'' =>
          if ctx.quoted then plain
          else
            let inner := rest.takeWhile (· != '\'')
            if inner.length == rest.length then s.failAtEnd "Unterminated quoted string"
            else
              readParts fuel ctx (addText got (String.ofList inner) true)
                (s.drop (inner.length + 2))
        | '"' => do
          let (inner, s) ← readParts fuel .double [] (s.drop 1)
          let inner := if inner.isEmpty then [.text "" true] else inner
          readParts fuel ctx (inner.reverse ++ got) (s.drop 1)
        | '$' => do
          let (part, s) ← readDollar fuel ctx.quoted (s.drop 1)
          readParts fuel ctx (part :: got) s
        | '`' =>
          match backquoted [] rest with
          | none => s.failAtEnd "EOF in backquote substitution"
          | some (inner, after) => do
            let (c, left) ← readLines fuel ⟨inner, 1⟩
            unless left.rest.isEmpty do left.unexpected ""
            readParts fuel ctx (.command c ctx.quoted :: got)
              (s.drop (s.rest.length - after.length))
        | '(' =>
          match ctx with
          | .arith depth => readParts fuel (.arith (depth + 1)) (addChar got c true) (s.drop 1)
          | _ => plain
        | ')' =>
          match ctx with
          | .arith (depth + 1) => readParts fuel (.arith depth) (addChar got c true) (s.drop 1)
          | _ => plain
        | _ => plain

/-- An expansion, past its dollar. -/
def readDollar (fuel : Nat) (quoted : Bool) (s : Source) : Except SyntaxError (Part × Source) :=
  match fuel with
  | 0 => s.fail "too deep"
  | fuel + 1 =>
    match s.rest with
    | '(' :: '(' :: _ => do
      let (inner, s) ← readParts fuel (.arith 0) [] (s.drop 2)
      if s.sees "))" then .ok (.arith inner quoted, s.drop 2) else s.failAtEnd "Missing '))'"
    | '(' :: _ => do
      let (c, s) ← readLines fuel (s.drop 1)
      let s := s.lines
      if s.sees ")" then .ok (.command c quoted, s.drop 1) else s.expecting ")"
    | '\x7b' :: '#' :: c :: rest =>
      if c == '\x7d' then .ok (.param "#" .plain [] quoted, s.drop 3)
      else
        let name := (c :: rest).takeWhile (· != '\x7d')
        .ok (.param (String.ofList name) .length [] quoted, s.drop (name.length + 3))
    | '\x7b' :: rest =>
      let name :=
        match rest with
        | c :: _ => if isNameStart c then rest.takeWhile isNameChar
            else if c.isDigit then rest.takeWhile Char.isDigit
            else if isSpecialParam c then [c] else []
        | [] => []
      let after := s.drop (name.length + 1)
      if after.sees "\x7d" && !name.isEmpty then
        .ok (.param (String.ofList name) .plain [] quoted, after.drop 1)
      else do
        let (form, width) := match name with
          | [] => (ParamForm.bad, 0)
          | _ => (paramForm after.rest).getD (.bad, 0)
        let (arg, s) ← readParts fuel (.braces quoted) [] (after.drop width)
        .ok (.param (String.ofList name) form arg quoted, s.drop 1)
    | c :: rest =>
      if isNameStart c then
        let name := (c :: rest).takeWhile isNameChar
        .ok (.param (String.ofList name) .plain [] quoted, s.drop name.length)
      else if isSpecialParam c then .ok (.param c.toString .plain [] quoted, s.drop 1)
      else .ok (.text "$" quoted, s)
    | [] => .ok (.text "$" quoted, s)

/-- A redirection, where one begins here; `fd` is the number in front of it, if there was one. -/
def readRedirect (fuel : Nat) (fd : Option Nat) (s : Source) :
    Except SyntaxError (Redirect × Source) :=
  match fuel with
  | 0 => s.fail "too deep"
  | fuel + 1 => do
    let target (default : Nat) (op : RedirectOp) (width : Nat) :
        Except SyntaxError (Redirect × Source) := do
      let (word, after) ← readParts fuel .word [] (s.drop width).blanks
      if word.isEmpty then after.unexpected "" else .ok (.mk (fd.getD default) op word, after)
    match s.rest with
    | '<' :: '<' :: '-' :: _ => readHere fuel (fd.getD 0) true (s.drop 3)
    | '<' :: '<' :: _ => readHere fuel (fd.getD 0) false (s.drop 2)
    | '<' :: '&' :: _ => target 0 .duplicate 2
    | '<' :: '>' :: _ => target 0 .both 2
    | '<' :: _ => target 0 .input 1
    | '>' :: '>' :: _ => target 1 .append 2
    | '>' :: '&' :: _ => target 1 .duplicate 2
    | '>' :: '|' :: _ => target 1 .output 2
    | _ => target 1 .output 1

/-- The text of a redirection that stands on the following lines. -/
def readHere (fuel : Nat) (fd : Nat) (tabs : Bool) (s : Source) :
    Except SyntaxError (Redirect × Source) :=
  match fuel with
  | 0 => s.fail "too deep"
  | fuel + 1 => do
    let (word, s) ← readParts fuel .word [] s.blanks
    if word.isEmpty then s.unexpected ""
    let (delimiter, quoted) := plainWord word
    let line := s.rest.takeWhile (· != '\n')
    let following := (s.rest.dropWhile (· != '\n')).drop 1
    let (body, after) := hereLines delimiter tabs (following.length + 1) [] following
    let s : Source := ⟨line ++ ['\n'] ++ after, s.line⟩
    if quoted then .ok (.mk fd .text [.text (String.ofList body) true], s)
    else do
      let escaped := body.flatMap fun c => if c == '"' then ['\\', '"'] else [c]
      let (parts, _) ← readParts fuel .double [] ⟨escaped ++ ['"'], s.line⟩
      .ok (.mk fd .text parts, s)

def readRedirects (fuel : Nat) (got : List Redirect) (s : Source) :
    Except SyntaxError (List Redirect × Source) :=
  match fuel with
  | 0 => s.fail "too deep"
  | fuel + 1 => do
    let s := s.blanks
    let digits := s.rest.takeWhile Char.isDigit
    let after := s.drop digits.length
    if after.sees "<" || after.sees ">" then
      let fd := if digits.isEmpty then none else (String.ofList digits).toNat?
      let (r, s) ← readRedirect fuel fd after
      readRedirects fuel (got ++ [r]) s
    else .ok (got, s)

/-- The assignments, words and redirections of a simple command. -/
def readSimple (fuel line : Nat) (assigns : List (Raw × Word)) (words : List Word)
    (redirects : List Redirect) (s : Source) : Except SyntaxError (Command × Source) :=
  match fuel with
  | 0 => s.fail "too deep"
  | fuel + 1 => do
    let s := s.blanks
    let finished : Except SyntaxError (Command × Source) :=
      .ok (.simple line assigns words redirects, s)
    let digits := s.rest.takeWhile Char.isDigit
    let after := s.drop digits.length
    if after.sees "<" || after.sees ">" then
      let fd := if digits.isEmpty then none else (String.ofList digits).toNat?
      let (r, s) ← readRedirect fuel fd after
      readSimple fuel line assigns words (redirects ++ [r]) s
    else
      match s.rest with
      | [] => finished
      | c :: _ =>
        if isMeta c then
          match assigns, words, redirects, c with
          | [], [word], [], '(' => readDefinition fuel word (s.drop 1)
          | _, _, _, _ => finished
        else
          let name := s.rest.takeWhile isNameChar
          let isAssign := words.isEmpty && isName (String.ofList name) &&
            (s.rest.drop name.length).head? == some '='
          if isAssign then do
            let (value, s) ← readParts fuel .word [] (s.drop (name.length + 1))
            readSimple fuel line (assigns ++ [(String.ofList name, value)]) words redirects s
          else do
            let (word, s) ← readParts fuel .word [] s
            readSimple fuel line assigns (words ++ [word]) redirects s

/-- The definition of a function, past its name and the opening parenthesis. -/
def readDefinition (fuel : Nat) (word : Word) (s : Source) :
    Except SyntaxError (Command × Source) :=
  match fuel with
  | 0 => s.fail "too deep"
  | fuel + 1 => do
    let s := s.blanks
    unless s.sees ")" do
      if (s.rest.head?.map isMeta).getD true then s.expecting ")"
      else s.fail "word unexpected (expecting \")\")"
    match word with
    | [.text name false] =>
      if isName name && !specialBuiltins.contains name then do
        let (body, s) ← readCommand fuel (s.drop 1).lines
        .ok (.define name body, s)
      else s.fail "Bad function name"
    | _ => s.fail "Bad function name"

/-- The patterns of a clause, up to the closing parenthesis. -/
def readPatterns (fuel : Nat) (got : List Word) (s : Source) :
    Except SyntaxError (List Word × Source) :=
  match fuel with
  | 0 => s.fail "too deep"
  | fuel + 1 => do
    let (word, s) ← readParts fuel .word [] s.blanks
    let s := s.blanks
    if s.sees "|" then readPatterns fuel (got ++ [word]) (s.drop 1)
    else if s.sees ")" then .ok (got ++ [word], s.drop 1)
    else s.expecting ")"

/-- The clauses of a case command, up to its last word. -/
def readClauses (fuel : Nat) (got : List Clause) (s : Source) :
    Except SyntaxError (List Clause × Source) :=
  match fuel with
  | 0 => s.fail "too deep"
  | fuel + 1 => do
    let s := s.lines
    if s.at_ "esac" then .ok (got, s.drop 4)
    else
      let s := if s.sees "(" then s.drop 1 else s
      let (patterns, s) ← readPatterns fuel [] s
      let (body, s) ← readLines fuel s
      let s := s.lines
      let got := got ++ [.mk patterns body]
      if s.sees ";;" then readClauses fuel got (s.drop 2)
      else if s.at_ "esac" then .ok (got, s.drop 4)
      else s.expecting ";;"

def readWords (fuel : Nat) (got : List Word) (s : Source) :
    Except SyntaxError (List Word × Source) :=
  match fuel with
  | 0 => s.fail "too deep"
  | fuel + 1 => do
    let s := s.blanks
    match s.rest with
    | [] => .ok (got, s)
    | c :: _ =>
      if isMeta c then .ok (got, s)
      else do
        let (word, s) ← readParts fuel .word [] s
        readWords fuel (got ++ [word]) s

/-- A list of at least one command, up to something that ends it. -/
def readBlock (fuel : Nat) (s : Source) : Except SyntaxError (Command × Source) :=
  match fuel with
  | 0 => s.fail "too deep"
  | fuel + 1 =>
    let s := s.lines
    if listEnds s && !s.rest.isEmpty then s.unexpected "" else readLines fuel s

/-- The branches of an if command, past its first word. -/
def readIf (fuel : Nat) (s : Source) : Except SyntaxError (Command × Command × Command × Source) :=
  match fuel with
  | 0 => s.fail "too deep"
  | fuel + 1 => do
    let (test, s) ← readBlock fuel s
    let s := s.lines
    unless s.at_ "then" do s.expecting "then"
    let (yes, s) ← readBlock fuel (s.drop 4)
    let s := s.lines
    if s.at_ "elif" then do
      let (test2, yes2, no2, s) ← readIf fuel (s.drop 4)
      .ok (test, yes, .choose test2 yes2 no2 [], s)
    else if s.at_ "else" then do
      let (no, s) ← readBlock fuel (s.drop 4)
      let s := s.lines
      if s.at_ "fi" then .ok (test, yes, no, s.drop 2) else s.expecting "fi"
    else if s.at_ "fi" then .ok (test, yes, .nothing, s.drop 2)
    else s.expecting "fi"

/-- What stands between `do` and `done`. -/
def readBody (fuel : Nat) (s : Source) : Except SyntaxError (Command × Source) :=
  match fuel with
  | 0 => s.fail "too deep"
  | fuel + 1 => do
    let s := s.lines
    unless s.at_ "do" do s.expecting "do"
    let (body, s) ← readBlock fuel (s.drop 2)
    let s := s.lines
    if s.at_ "done" then .ok (body, s.drop 4) else s.expecting "done"

def readCommand (fuel : Nat) (s : Source) : Except SyntaxError (Command × Source) :=
  match fuel with
  | 0 => s.fail "too deep"
  | fuel + 1 => do
    let s := s.blanks
    if s.sees "(" then do
      let (c, s) ← readBlock fuel (s.drop 1)
      let s := s.lines
      unless s.sees ")" do s.expecting ")"
      let (rs, s) ← readRedirects fuel [] (s.drop 1)
      .ok (.subshell c rs, s)
    else if s.at_ "\x7b" then do
      let (c, s) ← readBlock fuel (s.drop 1)
      let s := s.lines
      unless s.at_ "\x7d" do s.expecting "\x7d"
      let (rs, s) ← readRedirects fuel [] (s.drop 1)
      .ok (.group c rs, s)
    else if s.at_ "if" then do
      let (test, yes, no, s) ← readIf fuel (s.drop 2)
      let (rs, s) ← readRedirects fuel [] s
      .ok (.choose test yes no rs, s)
    else if s.at_ "while" || s.at_ "until" then do
      let negated := s.at_ "until"
      let (test, s) ← readBlock fuel (s.drop 5)
      let (body, s) ← readBody fuel s
      let (rs, s) ← readRedirects fuel [] s
      .ok (.loop negated test body rs, s)
    else if s.at_ "for" then do
      let s := (s.drop 3).blanks
      let name := s.rest.takeWhile isNameChar
      if !isName (String.ofList name) then
        (if s.sees "\n" then s.drop 1 else s).fail "Bad for loop variable"
      else
        let s := (s.drop name.length).lines
        let (words, s) ←
          if s.at_ "in" then do
            let (words, s) ← readWords fuel [] (s.drop 2)
            .ok (some words, s)
          else .ok (none, s)
        let s := s.blanks
        let s := if s.sees ";" then s.drop 1 else s
        let (body, s) ← readBody fuel s
        let (rs, s) ← readRedirects fuel [] s
        .ok (.forEach (String.ofList name) words body rs, s)
    else if s.at_ "case" then do
      let (subject, s) ← readParts fuel .word [] (s.drop 4).blanks
      let s := s.lines
      unless s.at_ "in" do s.expecting "in"
      let (clauses, s) ← readClauses fuel [] (s.drop 2)
      let (rs, s) ← readRedirects fuel [] s
      .ok (.select subject clauses rs, s)
    else if listEnds s || s.at_ "!" || s.sees "&" || s.sees "|" || s.sees ";" || s.sees "\n" then
      s.unexpected ""
    else readSimple fuel s.line [] [] [] s

/-- The stages of a pipeline, up to the last one. -/
def readStages (fuel : Nat) (got : List Command) (s : Source) :
    Except SyntaxError (List Command × Source) :=
  match fuel with
  | 0 => s.fail "too deep"
  | fuel + 1 => do
    let (c, s) ← readCommand fuel s
    let s := s.blanks
    if s.sees "|" && !s.sees "||" then readStages fuel (got ++ [c]) (s.drop 1).lines
    else .ok (got ++ [c], s)

def readPipeline (fuel : Nat) (s : Source) : Except SyntaxError (Command × Source) :=
  match fuel with
  | 0 => s.fail "too deep"
  | fuel + 1 => do
    let s := s.blanks
    let negated := s.at_ "!"
    let (stages, s) ← readStages fuel [] (if negated then s.drop 1 else s)
    match negated, stages with
    | false, [c] => .ok (c, s)
    | _, _ => .ok (.pipeline negated stages, s)

/-- Pipelines joined by `&&` and `||`; `left` is what stands before. -/
def readAndOr (fuel : Nat) (left : Command) (s : Source) :
    Except SyntaxError (Command × Source) :=
  match fuel with
  | 0 => s.fail "too deep"
  | fuel + 1 => do
    let s := s.blanks
    if s.sees "&&" then do
      let (right, s) ← readPipeline fuel (s.drop 2).lines
      readAndOr fuel (.andThen left right) s
    else if s.sees "||" then do
      let (right, s) ← readPipeline fuel (s.drop 2).lines
      readAndOr fuel (.orElse left right) s
    else .ok (left, s)

/-- A list of commands up to the end of its line. -/
def readLine (fuel : Nat) (left : Command) (s : Source) :
    Except SyntaxError (Command × Source) :=
  match fuel with
  | 0 => s.fail "too deep"
  | fuel + 1 => do
    let s := s.blanks
    if s.sees "\n" || listEnds s then .ok (left, s)
    else do
      let (first, s) ← readPipeline fuel s
      let (c, s) ← readAndOr fuel first s
      let s := s.blanks
      if s.sees ";;" then .ok (.sequence left c, s)
      else if s.sees ";" then readLine fuel (.sequence left c) (s.drop 1)
      else if s.sees "&" then readLine fuel (.sequence left (.background c)) (s.drop 1)
      else .ok (.sequence left c, s)

/-- A list of commands over several lines, up to something that ends it. -/
def readLines (fuel : Nat) (s : Source) : Except SyntaxError (Command × Source) :=
  match fuel with
  | 0 => s.fail "too deep"
  | fuel + 1 => do
    let s := s.lines
    if listEnds s then .ok (.nothing, s)
    else do
      let (c, s) ← readLine fuel .nothing s
      if s.sees "\n" then do
        let (further, s) ← readLines fuel (s.drop 1)
        .ok (.sequence c further, s)
      else .ok (c, s)

end

namespace Source

/-- Fuel that no text of this length uses up. -/
def fuel (s : Source) : Nat := 20 * s.rest.length + 100

/-- The commands of the next line, and the rest; `none` at the end of the text. -/
def nextCommand (s : Source) : Except SyntaxError (Option (Command × Source)) := do
  let s := s.lines
  if s.rest.isEmpty then .ok none
  else do
    let (c, s) ← readLine s.fuel .nothing s
    if s.rest.isEmpty then .ok (some (c, s))
    else if s.sees "\n" then .ok (some (c, s.drop 1))
    else s.unexpected ""

end Source

end Curfew.Host.Shell
