import Curfew.Toml.Cursor

/-!
# Strings and keys

The four forms of strings, and keys, which are bare words or one-line strings joined by dots.
Within a string over several lines every line end reads as a line feed, and one right after the
opening quotes is dropped.
-/

namespace Curfew.Toml

def isHexDigit (c : Char) : Bool :=
  c.isDigit || ('a' ≤ c && c ≤ 'f') || ('A' ≤ c && c ≤ 'F')

/-- The value of a digit, whatever its base. -/
def digitValue (c : Char) : Nat :=
  if c.isDigit then c.toNat - '0'.toNat
  else if 'a' ≤ c then c.toNat - 'a'.toNat + 10
  else c.toNat - 'A'.toNat + 10

/-- The number that digits stand for in a base. -/
def numberOf (base : Nat) (digits : List Char) : Nat :=
  digits.foldl (fun n c => n * base + digitValue c) 0

/-- A character that may stand for itself between double quotes. -/
def isBasicChar (c : Char) : Bool := isCommentChar c && c != '"' && c != '\\'

/-- A character that may stand between single quotes. -/
def isLiteralChar (c : Char) : Bool := isCommentChar c && c != '\''

/-- The character with a code point of exactly `width` hexadecimal digits. -/
def codePoint (width : Nat) (cur : Cursor) : Option (Char × Cursor) := do
  let (digits, cur) ← cur.takeBetween width width isHexDigit
  let n := numberOf 16 digits
  if n.isValidChar then some (Char.ofNat n, cur) else none

/-- The character that an escape stands for; the cursor is past the backslash. -/
def escape? (cur : Cursor) : Option (Char × Cursor) := do
  let (c, cur) ← cur.one? fun _ => true
  match c with
  | 'b' => some ('\x08', cur)
  | 't' => some ('\t', cur)
  | 'n' => some ('\n', cur)
  | 'f' => some ('\x0c', cur)
  | 'r' => some ('\r', cur)
  | '"' => some ('"', cur)
  | '\\' => some ('\\', cur)
  | 'u' => codePoint 4 cur
  | 'U' => codePoint 8 cur
  | _ => none

/-- The rest of a one-line string between double quotes; `got` is read already, newest first. -/
def basicTail : Nat → List Char → Reader (List Char)
  | 0, _, _ => none
  | fuel + 1, got, cur => do
    let (c, after) ← cur.one? fun _ => true
    if c == '"' then some (got.reverse, after)
    else if c == '\\' then
      let (c, after) ← escape? after
      basicTail fuel (c :: got) after
    else if isBasicChar c then basicTail fuel (c :: got) after
    else none

def basicString (cur : Cursor) : Option (List Char × Cursor) := do
  let cur ← cur.expect '"'
  basicTail (cur.rest.length + 1) [] cur

def literalString (cur : Cursor) : Option (List Char × Cursor) := do
  let cur ← cur.expect '\''
  let (chars, cur) := cur.takeWhile isLiteralChar
  let cur ← cur.expect '\''
  some (chars, cur)

/-- Past a line end with whatever blanks and line ends follow it, a backslash having opened it. -/
def skipFolded (cur : Cursor) : Option Cursor :=
  cur.skipBlanks.newline?.map folded
where
  /-- Past blanks and line ends. -/
  folded (cur : Cursor) : Cursor := go (cur.rest.length + 1) cur
  /-- Past at most `fuel` lines of blanks. -/
  go : Nat → Cursor → Cursor
    | 0, cur => cur
    | fuel + 1, cur =>
      let cur := cur.skipBlanks
      match cur.newline? with
      | some next => go fuel next
      | none => cur

/-- What a run of quotes means inside a string over several lines. Fewer than three are text; three
close the string; up to two more before them are text. -/
inductive QuoteRun
  | text (count : Nat)
  | close (count : Nat)

/-- Reads the run of quotes at the cursor. -/
def quoteRun (quote : Char) (cur : Cursor) : QuoteRun × Cursor :=
  let run := (cur.rest.takeWhile (· == quote)).length
  let skip (n : Nat) : Cursor := ⟨cur.rest.drop n, cur.offset + n⟩
  if run < 3 then (.text run, skip run)
  else (.close (min run 5 - 3), skip (min run 5))

/-- The rest of a string over several lines between `quote`s; with `escapes` a backslash opens an
escape. -/
def multilineTail (quote : Char) (escapes : Bool) : Nat → List Char → Reader (List Char)
  | 0, _, _ => none
  | fuel + 1, got, cur =>
    match cur.rest with
    | [] => none
    | c :: rest =>
      if c == quote then
        match quoteRun quote cur with
        | (.text n, cur) => multilineTail quote escapes fuel (List.replicate n quote ++ got) cur
        | (.close n, cur) => some ((List.replicate n quote ++ got).reverse, cur)
      else if escapes && c == '\\' then
        let after := cur.past c rest
        match skipFolded after with
        | some cur => multilineTail quote escapes fuel got cur
        | none => (escape? after).bind fun (c, cur) =>
          multilineTail quote escapes fuel (c :: got) cur
      else if isCommentChar c then multilineTail quote escapes fuel (c :: got) (cur.past c rest)
      else cur.newline?.bind (multilineTail quote escapes fuel ('\n' :: got))

/-- A string over several lines between triple `quote`s. -/
def multilineString (quote : Char) (escapes : Bool) (cur : Cursor) :
    Option (List Char × Cursor) := do
  let cur ← cur.literal [quote, quote, quote]
  let cur := (cur.newline?).getD cur
  multilineTail quote escapes (cur.rest.length + 1) [] cur

/-- A string of any form, told by its quotes. -/
def stringValue (cur : Cursor) : Option (List Char × Cursor) :=
  match cur.rest with
  | '"' :: '"' :: '"' :: _ => multilineString '"' true cur
  | '"' :: _ => basicString cur
  | '\'' :: '\'' :: '\'' :: _ => multilineString '\'' false cur
  | _ => literalString cur

/-! ## Keys -/

def isBareKeyChar (c : Char) : Bool := c.isAlphanum || c == '_' || c == '-'

def simpleKey (cur : Cursor) : Option (Key × Cursor) := do
  let (chars, after) ←
    match cur.peek? with
    | some '"' => basicString cur
    | some '\'' => literalString cur
    | _ => cur.takeBetween 1 cur.rest.length isBareKeyChar
  some (⟨String.ofList chars, ⟨cur.offset, after.offset⟩⟩, after)

/-- The parts of a key after its first dot, newest first, `parts` being read already. -/
def keyTail : Nat → List Key → Reader (List Key)
  | 0, _, _ => none
  | fuel + 1, parts, cur =>
    match cur.expect '.' with
    | none => some (parts, cur)
    | some cur => do
      let (part, cur) ← simpleKey cur.skipBlanks
      keyTail fuel (part :: parts) cur.skipBlanks

/-- Keys have fewer parts than this, and values fewer levels. -/
def depthLimit : Nat := 80

/-- A key: the parts before its last one, and the last one. Blanks may surround every part. -/
def dottedKey (cur : Cursor) : Option ((List Key × Key) × Cursor) := do
  let (first, cur) ← simpleKey cur.skipBlanks
  let (parts, cur) ← keyTail depthLimit [first] cur.skipBlanks
  match parts with
  | [] => none
  | last :: before =>
    if parts.length < depthLimit then some ((before.reverse, last), cur) else none

end Curfew.Toml
