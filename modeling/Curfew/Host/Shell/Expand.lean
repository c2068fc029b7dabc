import Curfew.Host.Shell.Parse
import Curfew.Host.Shell.Arithmetic

/-!
# Expanding words

A word expands to a row of **`Glyph`**s: characters that remember whether they were quoted, written
plainly, or came out of an expansion. Only the last are split into fields; all but the first are
matched as patterns. Command substitutions are carried out beforehand and stand in the word as text.

* **`Scope.expand`** expands a word; **`fields`** splits the glyphs; **`Pattern.fits`** compares a
  text with a pattern.
-/

namespace Curfew.Host.Shell

open Text (Raw)

structure Variable where
  value : Raw
  exported : Bool
  fixed : Bool

structure Scope where
  vars : List (Raw × Variable)
  /-- The parameter 0. -/
  name : Raw
  params : List Raw
  status : Nat
  pid : Nat
  background : Option Nat
  /-- The letters of the options that are on. -/
  flags : Raw

inductive Origin
  | quoted
  | literal
  | expanded
deriving DecidableEq, Repr

inductive Glyph
  | char (c : Char) (origin : Origin)
  /-- A pair of quotes stood here. -/
  | mark
  /-- A field ends here for certain. -/
  | fieldEnd
deriving DecidableEq, Repr

namespace Scope

def get? (s : Scope) (name : Raw) : Option Raw :=
  (s.vars.find? fun v => v.1 == name).map fun v => v.2.value

def set (s : Scope) (name value : Raw) : Scope :=
  let exported := ((s.vars.find? fun v => v.1 == name).map fun v => v.2.exported).getD false
  { s with vars := s.vars.filter (fun v => v.1 != name) ++ [(name, ⟨value, exported, false⟩)] }

/-- Whether a variable must keep its value. -/
def isFixed (s : Scope) (name : Raw) : Bool :=
  s.vars.any fun v => v.1 == name && v.2.fixed

/-- Puts a variable back to what it was. -/
def putBack (s : Scope) (name : Raw) (old : Option Variable) : Scope :=
  let others := s.vars.filter fun v => v.1 != name
  { s with vars := others ++ (old.map fun v => (name, v)).toList }

def fix (s : Scope) (name : Raw) : Scope :=
  { s with
    vars := s.vars.map fun v => if v.1 == name then (v.1, { v.2 with fixed := true }) else v }

def unset (s : Scope) (name : Raw) : Scope :=
  { s with vars := s.vars.filter fun v => v.1 != name }

/-- Marks a variable for the environment of programs. -/
def export_ (s : Scope) (name : Raw) : Scope :=
  match s.vars.find? fun v => v.1 == name with
  | none => s
  | some _ =>
    { s with
      vars := s.vars.map fun v => if v.1 == name then (v.1, { v.2 with exported := true }) else v }

def environment (s : Scope) : List (Raw × Raw) :=
  s.vars.filterMap fun v => if v.2.exported then some (v.1, v.2.value) else none

def param? (s : Scope) (name : Raw) : Option Raw :=
  match name with
  | "#" => some (toString s.params.length)
  | "?" => some (toString s.status)
  | "$" => some (toString s.pid)
  | "!" => s.background.map toString
  | "-" => some s.flags
  | "@" => if s.params.isEmpty then none else some (String.intercalate " " s.params)
  | "*" => if s.params.isEmpty then none else some (String.intercalate " " s.params)
  | "0" => some s.name
  | _ =>
    match name.toNat? with
    | some n => s.params[n - 1]?
    | none => s.get? name

def separators (s : Scope) : List Char := ((s.get? "IFS").getD " \t\n").toList

end Scope

/-! ## Patterns -/

inductive PatternItem
  | char (c : Char)
  | any
  | many
  | set (negated : Bool) (ranges : List (Char × Char))

namespace Pattern

/-- The ranges in brackets, and what follows; `none` where the brackets do not close. -/
def ranges : Nat → List (Char × Char) → List Char → Option (List (Char × Char) × List Char)
  | 0, _, _ => none
  | _ + 1, _, [] => none
  | fuel + 1, got, c :: rest =>
    if c == ']' && !got.isEmpty then some (got, rest)
    else
      match rest with
      | '-' :: d :: more =>
        if d == ']' then ranges fuel ((c, c) :: got) rest else ranges fuel ((c, d) :: got) more
      | _ => ranges fuel ((c, c) :: got) rest

def ofGlyphs : Nat → List Glyph → List PatternItem
  | 0, _ => []
  | _ + 1, [] => []
  | fuel + 1, g :: rest =>
    match g with
    | .char c .quoted => .char c :: ofGlyphs fuel rest
    | .char '*' _ => .many :: ofGlyphs fuel rest
    | .char '?' _ => .any :: ofGlyphs fuel rest
    | .char '[' _ =>
      let chars := rest.filterMap fun g =>
        match g with
        | .char c _ => some c
        | _ => none
      let negated := chars.head? == some '!'
      match ranges (chars.length + 1) [] (if negated then chars.drop 1 else chars) with
      | some (rs, after) =>
        .set negated rs :: ofGlyphs fuel (rest.drop (chars.length - after.length))
      | none => .char '[' :: ofGlyphs fuel rest
    | .char c _ => .char c :: ofGlyphs fuel rest
    | _ => ofGlyphs fuel rest

/-- Whether a pattern matches the whole of a text. -/
def fits : List PatternItem → List Char → Bool
  | [], cs => cs.isEmpty
  | .many :: ps, cs => (List.range (cs.length + 1)).any fun n => fits ps (cs.drop n)
  | .any :: ps, cs =>
    match cs with
    | [] => false
    | _ :: cs => fits ps cs
  | .char p :: ps, cs =>
    match cs with
    | [] => false
    | c :: cs => c == p && fits ps cs
  | .set negated rs :: ps, cs =>
    match cs with
    | [] => false
    | c :: cs => (rs.any fun r => r.1 ≤ c && c ≤ r.2) != negated && fits ps cs

/-- The text without its shortest or longest start that matches. -/
def trimStart (pattern : List PatternItem) (longest : Bool) (text : List Char) : List Char :=
  let sizes := List.range (text.length + 1)
  let order := if longest then sizes.reverse else sizes
  match order.find? fun n => fits pattern (text.take n) with
  | some n => text.drop n
  | none => text

/-- The text without its shortest or longest end that matches. -/
def trimEnd (pattern : List PatternItem) (longest : Bool) (text : List Char) : List Char :=
  let sizes := List.range (text.length + 1)
  let order := if longest then sizes else sizes.reverse
  match order.find? fun n => fits pattern (text.drop n) with
  | some n => text.take n
  | none => text

end Pattern

/-! ## Glyphs -/

/-- The characters of a text as glyphs. -/
def glyphs (text : Raw) (origin : Origin) : List Glyph :=
  text.toList.map fun c => .char c origin

/-- A text with its quotes, if it was quoted. -/
def quotedGlyphs (text : Raw) (quoted : Bool) (origin : Origin) : List Glyph :=
  if quoted then .mark :: glyphs text .quoted else glyphs text origin

def glyphText (gs : List Glyph) : Raw :=
  String.ofList (gs.filterMap fun g =>
    match g with
    | .char c _ => some c
    | .fieldEnd => some ' '
    | .mark => none)

def glyphPattern (gs : List Glyph) : List PatternItem := Pattern.ofGlyphs (gs.length + 1) gs

/-- Glyphs of an argument of an expansion: plain characters count as expanded, and quotes around
nothing still leave an empty text. -/
def asArgument (quoted : Bool) (gs : List Glyph) : List Glyph :=
  let gs := gs.map fun g =>
    match g with
    | .char c .literal => .char c (if quoted then .quoted else .expanded)
    | g => g
  if quoted && gs.isEmpty then [.mark] else gs

/-- The number that a variable stands for in arithmetic; nothing stands for zero. -/
def numberOfText (text : Raw) : Except Arithmetic.Failure Int :=
  let (n, rest) := Arithmetic.signedNumber text.toList
  if rest.isEmpty then .ok n else .error (.illegalNumber text)

/-- An expansion yields its result and the scope afterwards, or a complaint. -/
abbrev Expanded := Except String (List Glyph × Scope)

/-- The parameters of the script, each as a field of its own where they are quoted. -/
def allParams (s : Scope) (apart quoted : Bool) : List Glyph :=
  let join := match s.separators with
    | [] => if (s.get? "IFS").isSome then "" else " "
    | c :: _ => c.toString
  if quoted && !apart then .mark :: glyphs (String.intercalate join s.params) .quoted
  else
    let each := s.params.map fun p => quotedGlyphs p quoted .expanded
    (each.intersperse [.fieldEnd]).flatten

mutual

def expandPart (s : Scope) : Part → Expanded
  | .text text quoted => .ok (quotedGlyphs text quoted .literal, s)
  | .command _ _ => .ok ([], s)
  | .arith expression quoted => do
    let (gs, s) ← expandParts s expression
    let text := glyphText gs
    match Arithmetic.evaluate text fun name => numberOfText ((s.get? name).getD "") with
    | .ok (n, vars) =>
      let s := vars.foldl (fun s v => s.set v.1 (toString v.2)) s
      .ok (quotedGlyphs (toString n) quoted .expanded, s)
    | .error failure => .error (failure.message text)
  | .param name form arg quoted => do
    let value := s.param? name
    let present (colon : Bool) : Bool := value.isSome && !(colon && value == some "")
    let own : List Glyph :=
      if name == "@" then allParams s true quoted
      else if name == "*" then allParams s false quoted
      else quotedGlyphs (value.getD "") quoted .expanded
    match form with
    | .bad => .error "Bad substitution"
    | .plain =>
      if value.isNone && s.flags.contains 'u' && name != "@" && name != "*" then
        .error (name ++ ": parameter not set")
      else .ok (own, s)
    | .length => .ok (quotedGlyphs (toString (value.getD "").length) quoted .expanded, s)
    | .fallback colon =>
      if present colon then .ok (own, s)
      else do
        let (gs, s) ← expandParts s arg
        .ok (asArgument quoted gs, s)
    | .assign colon =>
      if present colon then .ok (own, s)
      else do
        let (gs, s) ← expandParts s arg
        let text := glyphText gs
        .ok (quotedGlyphs text quoted .expanded, s.set name text)
    | .complain colon =>
      if present colon then .ok (own, s)
      else do
        let (gs, _) ← expandParts s arg
        let text := glyphText gs
        .error (name ++ ": " ++ if text == "" then "parameter not set" else text)
    | .instead colon =>
      if present colon then do
        let (gs, s) ← expandParts s arg
        .ok (asArgument quoted gs, s)
      else .ok (asArgument quoted [], s)
    | .trimStart longest => do
      let (gs, s) ← expandParts s arg
      let text := Pattern.trimStart (glyphPattern gs) longest (value.getD "").toList
      .ok (quotedGlyphs (String.ofList text) quoted .expanded, s)
    | .trimEnd longest => do
      let (gs, s) ← expandParts s arg
      let text := Pattern.trimEnd (glyphPattern gs) longest (value.getD "").toList
      .ok (quotedGlyphs (String.ofList text) quoted .expanded, s)

/-- Expands the parts of a word, from left to right. -/
def expandParts (s : Scope) : List Part → Expanded
  | [] => .ok ([], s)
  | part :: rest => do
    let (first, s) ← expandPart s part
    let (others, s) ← expandParts s rest
    .ok (first ++ others, s)

end

/-! ## Fields -/

/-- Splits glyphs into fields. White space among the separators only ends fields; any other
separator also ends an empty one. `current` is the field begun, newest first. -/
def splitFields (separators : List Char) :
    List Glyph → Option (List Char) → List Raw → List Raw
  | [], current, got =>
    match current with
    | none => got.reverse
    | some cs => (String.ofList cs.reverse :: got).reverse
  | g :: rest, current, got =>
    let close : List Raw :=
      match current with
      | none => got
      | some cs => String.ofList cs.reverse :: got
    match g with
    | .mark => splitFields separators rest (some (current.getD [])) got
    | .fieldEnd => splitFields separators rest none close
    | .char c .expanded =>
      if separators.contains c then
        if c == ' ' || c == '\t' || c == '\n' then splitFields separators rest none close
        else splitFields separators rest none (String.ofList (current.getD []).reverse :: got)
      else splitFields separators rest (some (c :: current.getD [])) got
    | .char c _ => splitFields separators rest (some (c :: current.getD [])) got

/-- A tilde at the start of a word stands for the home directory. -/
def expandTilde (s : Scope) (word : Word) : Word :=
  match word with
  | .text t false :: rest =>
    match t.toList with
    | '~' :: cs =>
      if cs.isEmpty || cs.head? == some '/' then
        .text ((s.get? "HOME").getD "~") true :: .text (String.ofList cs) false :: rest
      else word
    | _ => word
  | _ => word

namespace Scope

def fields (s : Scope) (word : Word) : Except String (List Raw × Scope) := do
  let (gs, s) ← expandParts s (expandTilde s word)
  .ok (splitFields s.separators gs none [], s)

/-- A word as one text, without splitting. -/
def joined (s : Scope) (word : Word) : Except String (Raw × Scope) := do
  let (gs, s) ← expandParts s (expandTilde s word)
  .ok (glyphText gs, s)

def pattern (s : Scope) (word : Word) : Except String (List PatternItem × Scope) := do
  let (gs, s) ← expandParts s (expandTilde s word)
  .ok (glyphPattern gs, s)

def allFields (s : Scope) : List Word → Except String (List Raw × Scope)
  | [] => .ok ([], s)
  | word :: rest => do
    let (first, s) ← s.fields word
    let (others, s) ← s.allFields rest
    .ok (first ++ others, s)

end Scope

/-! ## Command substitutions -/

mutual

/-- The first command substitution in a part. -/
def Part.firstCommand? : Part → Option Command
  | .text _ _ => none
  | .command c _ => some c
  | .arith expression _ => firstCommand? expression
  | .param _ _ arg _ => firstCommand? arg

/-- The first command substitution in a word. -/
def firstCommand? : List Part → Option Command
  | [] => none
  | part :: rest => (part.firstCommand?).orElse fun () => firstCommand? rest

end

/-- The parts that stand for the output of a command: expanded text, or quoted text. -/
def outputPart (output : Raw) (quoted : Bool) : Part :=
  if quoted then .text output true
  else .param "" (.fallback false) [.text output false] false

mutual

/-- Puts the output of the first command substitution in its place. -/
def Part.fillFirst (output : Raw) : Part → Part
  | .text t quoted => .text t quoted
  | .command _ quoted => outputPart output quoted
  | .arith expression quoted => .arith (fillFirst output expression) quoted
  | .param name form arg quoted => .param name form (fillFirst output arg) quoted

/-- Puts the output of the first command substitution of a word in its place. -/
def fillFirst (output : Raw) : List Part → List Part
  | [] => []
  | part :: rest =>
    if part.firstCommand?.isSome then part.fillFirst output :: rest
    else part :: fillFirst output rest

end

end Curfew.Host.Shell
