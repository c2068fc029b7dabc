import Curfew.Toml.Number
import Curfew.Toml.Table

/-!
# Statements

A document is a sequence of statements, one a line: headers, headers in double brackets, and
assignments. **`Statement.readAll`** reads them; **`value`** reads the right side of an assignment,
to a limited depth of arrays and tables within each other.
-/

namespace Curfew.Toml

/-- A value with the bytes it was read from. -/
abbrev Located := Item Value

/-! ## Values -/

/-- Items of an array up to its closing bracket, read by `item`; `got` is read already, newest
first. Blanks, comments and line ends may stand anywhere, and a comma after the last item. -/
def arrayTail (item : Reader Located) : Nat → List Located → Reader (List Located)
  | 0, _, _ => none
  | fuel + 1, got, cur => do
    let cur ← cur.skipSpace
    match cur.expect ']' with
    | some cur => some (got.reverse, cur)
    | none =>
      let (x, cur) ← item cur
      let cur ← cur.skipSpace
      match cur.expect ',' with
      | some cur => arrayTail item fuel (x :: got) cur
      | none => (cur.expect ']').map fun cur => ((x :: got).reverse, cur)

def array (item : Reader Located) : Reader (List Located) := fun cur => do
  let cur ← cur.expect '['
  arrayTail item (cur.rest.length + 1) [] cur

/-- Assignments of a table in braces, joined by commas, up to the closing brace. -/
def inlineTail (item : Reader Located) : Nat → Table → Reader Table
  | 0, _, _ => none
  | fuel + 1, t, cur => do
    let ((path, key), cur) ← dottedKey cur
    let cur ← cur.expect '='
    let (x, cur) ← item cur.skipBlanks
    let t ← t.assign path ⟨key, x.span, x.value⟩
    let cur := cur.skipBlanks
    match cur.expect ',' with
    | some cur => inlineTail item fuel t cur
    | none => (cur.expect '\x7d').map fun cur => (t, cur)

def inlineTable (item : Reader Located) : Reader Table := fun cur => do
  let cur ← cur.expect '\x7b'
  match cur.skipBlanks.expect '\x7d' with
  | some cur => some (.empty .inline, cur)
  | none => inlineTail item (cur.rest.length + 1) (.empty .inline) cur

/-- A value that holds no other values, told by its first character. -/
def scalar (cur : Cursor) : Option (Value × Cursor) :=
  match cur.peek? with
  | none => none
  | some c =>
    if c == '"' || c == '\'' then
      (stringValue cur).map fun (chars, cur) => (.text (String.ofList chars), cur)
    else if c == '+' || c == '-' || c.isDigit then numberOrDate cur
    else
      match cur.literal ['t', 'r', 'u', 'e'], cur.literal ['f', 'a', 'l', 's', 'e'] with
      | some cur, _ => some (.boolean true, cur)
      | none, some cur => some (.boolean false, cur)
      | none, none => specialFloat cur

/-- A reading with the bytes it took. -/
def located (start : Cursor) (reading : Option (Value × Cursor)) : Option (Located × Cursor) :=
  reading.map fun (v, cur) => (⟨some ⟨start.offset, cur.offset⟩, v⟩, cur)

/-- A value with at most `depth` arrays and tables around each other. -/
def value : Nat → Reader Located
  | 0, cur => located cur (scalar cur)
  | depth + 1, cur =>
    match cur.peek? with
    | some '[' =>
      located cur ((array (value depth) cur).map fun (items, cur) => (.array items, cur))
    | some '\x7b' =>
      located cur ((inlineTable (value depth) cur).map fun (t, cur) => (.table t, cur))
    | _ => located cur (scalar cur)

/-! ## Statements -/

/-- A statement of a document. A path leads to the table that the last key is defined in. -/
inductive Statement
  | header (path : List Key) (key : Key) (span : Span)
  | arrayHeader (path : List Key) (key : Key) (span : Span)
  | assign (path : List Key) (key : Key) (value : Located)

namespace Statement

/-- A header between `opening` and `closing` brackets, with the rest of its line. -/
def bracketed (opening closing : List Char) (cur : Cursor) :
    Option ((List Key × Key × Span) × Cursor) := do
  let inner ← cur.literal opening
  let ((path, key), inner) ← dottedKey inner
  let past ← inner.literal closing
  let next ← past.lineTail?
  some ((path, key, ⟨cur.offset, past.offset⟩), next)

def readHeader (cur : Cursor) : Option (Statement × Cursor) :=
  match cur.rest with
  | '[' :: '[' :: _ =>
    (bracketed ['[', '['] [']', ']'] cur).map fun ((path, key, span), cur) =>
      (.arrayHeader path key span, cur)
  | _ =>
    (bracketed ['['] [']'] cur).map fun ((path, key, span), cur) => (.header path key span, cur)

/-- An assignment with the rest of its line. -/
def readAssignment (cur : Cursor) : Option (Statement × Cursor) := do
  let ((path, key), cur) ← dottedKey cur
  let cur ← cur.expect '='
  let (x, cur) ← value (depthLimit - 1) cur.skipBlanks
  let cur ← cur.lineTail?
  some (.assign path key x, cur)

/-- Reads statements up to the end of the document; `got` is read already, newest first. -/
def readFrom : Nat → List Statement → Cursor → Option (List Statement)
  | 0, _, _ => none
  | fuel + 1, got, cur =>
    let cur := cur.skipBlanks
    match cur.peek? with
    | none => some got.reverse
    | some '#' => cur.skipComment.lineEnd?.bind (readFrom fuel got)
    | some '\n' => cur.newline?.bind (readFrom fuel got)
    | some '\r' => cur.newline?.bind (readFrom fuel got)
    | some '[' => (readHeader cur).bind fun (s, cur) => readFrom fuel (s :: got) cur
    | some _ => (readAssignment cur).bind fun (s, cur) => readFrom fuel (s :: got) cur

/-- The statements of a document, which may open with a byte order mark. -/
def readAll (text : String) : Option (List Statement) :=
  let cur := Cursor.ofText text
  let cur := (cur.expect '\uFEFF').getD cur
  readFrom (cur.rest.length + 1) [] cur

end Statement

end Curfew.Toml
