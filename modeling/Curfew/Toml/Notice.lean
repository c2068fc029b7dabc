import Curfew.Toml.Value

/-!
# Pointing at a place in a document

A notice names the line and the column of a place, shows the line, and marks the place under it.
Lines and columns count from 1, columns in characters.
-/

namespace Curfew.Toml

/-- A place, the line that it lies on, and the number of characters before it on that line. -/
structure Place where
  line : Nat
  before : Nat
  text : List Char

namespace Place

/-- The characters that end before the byte `offset`. -/
def charsBefore : Nat → List Char → List Char
  | _, [] => []
  | offset, c :: rest => if offset = 0 then [] else c :: charsBefore (offset - c.utf8Size) rest

def ofOffset (text : String) (offset : Nat) : Place :=
  let before := charsBefore offset text.toList
  let start := (before.reverse.takeWhile (· != '\n')).length
  let line := before.count '\n'
  { line := line + 1
    before := start
    text := (text.toList.drop (before.length - start)).takeWhile (· != '\n') }

end Place

/-- The number of bytes of a line. -/
def lineBytes (line : List Char) : Nat := (line.map Char.utf8Size).foldr (· + ·) 0

/-- The notice of a complaint about the bytes of a span. The marks number the bytes of the span, but
at least one, and do not go past the line's end. -/
def notice (document : String) (span : Span) (complaint : String) : String :=
  let place := Place.ofOffset document span.start
  let number := toString place.line
  let gutter := String.ofList (List.replicate number.length ' ')
  let marks := max 1 (min (span.stop - span.start) (lineBytes place.text - place.before))
  "TOML parse error at line " ++ number ++ ", column " ++ toString (place.before + 1) ++ "\n" ++
    gutter ++ " |\n" ++
    number ++ " | " ++ String.ofList place.text ++ "\n" ++
    gutter ++ " | " ++ String.ofList (List.replicate place.before ' ') ++
    String.ofList (List.replicate marks '^') ++ "\n" ++
    complaint ++ "\n"

end Curfew.Toml
