/-!
# Writing JSON

String literals (**`quote`**) and flat objects laid out over lines (**`layout`**), which is all a
summary needs.
-/

namespace Curfew.Text.Json

/-- The digit of a number below 16. -/
def hexDigit (n : Nat) : Char := Nat.digitChar n

/-- One character inside a literal: the quote, the backslash and the controls below U+0020 are
escaped, the commoner controls by their letter. -/
def escape (c : Char) : List Char :=
  if c == '"' then ['\\', '"']
  else if c == '\\' then ['\\', '\\']
  else if c == '\n' then ['\\', 'n']
  else if c == '\r' then ['\\', 'r']
  else if c == '\t' then ['\\', 't']
  else if c.toNat == 8 then ['\\', 'b']
  else if c.toNat == 12 then ['\\', 'f']
  else if c.toNat < 0x20 then
    ['\\', 'u', '0', '0', hexDigit (c.toNat / 16), hexDigit (c.toNat % 16)]
  else [c]

def quote (text : String) : String :=
  String.ofList (['"'] ++ text.toList.flatMap escape ++ ['"'])

inductive Scalar
  | null
  | number (n : Int)
  | text (s : String)

def Scalar.render : Scalar → String
  | .null => "null"
  | .number n => toString n
  | .text s => quote s

def Scalar.ofNumber? : Option Int → Scalar
  | none => .null
  | some n => .number n

def Scalar.ofText? : Option String → Scalar
  | none => .null
  | some s => .text s

/-- An object with one member a line, indented by two blanks. -/
def layout (members : List (String × Scalar)) : String :=
  "\x7b\n" ++
    String.intercalate ",\n" (members.map fun (name, value) =>
      "  " ++ quote name ++ ": " ++ value.render) ++
    "\n\x7d"

end Curfew.Text.Json
