import Curfew.Toml.Value

/-!
# Reading a document from left to right

A **`Cursor`** is what is left of a document and how many bytes lie before it. The readers of this
folder take a cursor and hand back what they read with the cursor after it, or `none` where the
text is not what they read.
-/

namespace Curfew.Toml

/-- The rest of a document and the number of bytes before it. -/
structure Cursor where
  rest : List Char
  offset : Nat
deriving Repr

/-- A reader of `α`. -/
abbrev Reader (α : Type) := Cursor → Option (α × Cursor)

namespace Cursor

def ofText (text : String) : Cursor := ⟨text.toList, 0⟩

/-- The cursor past the character `c`, with `rest` after it. -/
def past (cur : Cursor) (c : Char) (rest : List Char) : Cursor :=
  ⟨rest, cur.offset + c.utf8Size⟩

def peek? (cur : Cursor) : Option Char := cur.rest.head?

/-- Whether the document is at its end. -/
def atEnd (cur : Cursor) : Bool := cur.rest.isEmpty

/-- The number of bytes of some characters. -/
def byteCount (chars : List Char) : Nat := (chars.map Char.utf8Size).foldr (· + ·) 0

/-- The next character, if it is in a class. -/
def one? (p : Char → Bool) (cur : Cursor) : Option (Char × Cursor) :=
  match cur.rest with
  | c :: rest => if p c then some (c, cur.past c rest) else none
  | [] => none

/-- The cursor past the character `c`. -/
def expect (c : Char) (cur : Cursor) : Option Cursor :=
  (cur.one? (· == c)).map Prod.snd

/-- As many characters of a class as there are. -/
def takeWhile (p : Char → Bool) (cur : Cursor) : List Char × Cursor :=
  let taken := cur.rest.takeWhile p
  (taken, ⟨cur.rest.dropWhile p, cur.offset + byteCount taken⟩)

/-- The cursor past as many characters of a class as there are. -/
def skipWhile (p : Char → Bool) (cur : Cursor) : Cursor := (cur.takeWhile p).2

/-- Between `least` and `most` characters of a class. -/
def takeBetween (least most : Nat) (p : Char → Bool) (cur : Cursor) :
    Option (List Char × Cursor) :=
  let taken := (cur.rest.take most).takeWhile p
  if taken.length < least then none
  else some (taken, ⟨cur.rest.drop taken.length, cur.offset + byteCount taken⟩)

/-- The cursor past a run of characters that begins the rest. -/
def literal (chars : List Char) (cur : Cursor) : Option Cursor :=
  if chars.isPrefixOf cur.rest then
    some ⟨cur.rest.drop chars.length, cur.offset + byteCount chars⟩
  else none

end Cursor

/-! ## Blanks, line ends and comments -/

def isBlank (c : Char) : Bool := c == ' ' || c == '\t'

/-- A character that a comment may hold: any but the controls, except the tab. -/
def isCommentChar (c : Char) : Bool :=
  c == '\t' || (' ' ≤ c && c ≤ '~') || 0x80 ≤ c.toNat

namespace Cursor

/-- Past blanks and tabs. -/
def skipBlanks (cur : Cursor) : Cursor := cur.skipWhile isBlank

/-- Past one line end: a line feed, or a carriage return with a line feed. -/
def newline? (cur : Cursor) : Option Cursor :=
  match cur.rest with
  | '\n' :: rest => some ⟨rest, cur.offset + 1⟩
  | '\r' :: '\n' :: rest => some ⟨rest, cur.offset + 2⟩
  | _ => none

/-- Past one line end, or at the end of the document. -/
def lineEnd? (cur : Cursor) : Option Cursor :=
  if cur.atEnd then some cur else cur.newline?

/-- Past a comment, if there is one; its line end stays. -/
def skipComment (cur : Cursor) : Cursor :=
  match cur.rest with
  | '#' :: _ => cur.skipWhile isCommentChar
  | _ => cur

/-- Past what may follow a statement on its line: blanks, a comment, the line end. -/
def lineTail? (cur : Cursor) : Option Cursor := cur.skipBlanks.skipComment.lineEnd?

/-- Past blanks, comments and line ends, of which there are at most `fuel`. -/
def skipLines : Nat → Cursor → Option Cursor
  | 0, cur => some cur
  | fuel + 1, cur =>
    let cur := cur.skipBlanks
    match cur.peek? with
    | some '#' => (cur.skipComment.newline?).bind (skipLines fuel)
    | some '\n' => cur.newline?.bind (skipLines fuel)
    | some '\r' => cur.newline?.bind (skipLines fuel)
    | _ => some cur

/-- Past blanks, comments and line ends. -/
def skipSpace (cur : Cursor) : Option Cursor := skipLines (cur.rest.length + 1) cur

end Cursor

end Curfew.Toml
