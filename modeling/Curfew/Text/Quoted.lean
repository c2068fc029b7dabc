import Curfew.Text.Unprintable

/-!
# Quoted text in messages

**`quote`** writes a text between double quotes, so that a reader of a message sees every
character: the quote and the backslash get a backslash, the common controls a letter, and other
characters without a shape of their own stand as their code point.
-/

namespace Curfew.Text.Quoted

/-- The code point of a character in lower-case hexadecimal, in braces. -/
def codePoint (c : Char) : List Char :=
  ['\\', 'u', '\x7b'] ++ Nat.toDigits 16 c.toNat ++ ['\x7d']

def escape (c : Char) : List Char :=
  if c == '"' then ['\\', '"']
  else if c == '\\' then ['\\', '\\']
  else if c == '\n' then ['\\', 'n']
  else if c == '\r' then ['\\', 'r']
  else if c == '\t' then ['\\', 't']
  else if c.toNat == 0 then ['\\', '0']
  else if Unprintable.isUnprintable c then codePoint c
  else [c]

def quote (text : String) : String :=
  String.ofList (['"'] ++ text.toList.flatMap escape ++ ['"'])

end Curfew.Text.Quoted
