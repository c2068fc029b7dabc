/-!
# Signed words in decimal

How a decimal text is read as a signed word of 64 bits (**`Signed.read`**), and what can be wrong
with it.
-/

namespace Curfew.Decimal.Signed

inductive Fault
  | empty
  | badDigit
  | tooLarge
  | tooSmall
deriving DecidableEq, Repr

def Fault.message : Fault → String
  | .empty => "cannot parse integer from empty string"
  | .badDigit => "invalid digit found in string"
  | .tooLarge => "number too large to fit in target type"
  | .tooSmall => "number too small to fit in target type"

def digit? (c : Char) : Option Nat := if c.isDigit then some (c.toNat - 48) else none

/-- Reads digits into a magnitude of at most `most`. The first thing wrong counts: a character that
is no digit, or a digit that takes the magnitude too far. -/
def magnitude (most : Nat) (beyond : Fault) : List Char → Nat → Except Fault Nat
  | [], n => .ok n
  | c :: rest, n =>
    match digit? c with
    | none => .error .badDigit
    | some d =>
      let n := n * 10 + d
      if most < n then .error beyond else magnitude most beyond rest n

def most : Nat := 9223372036854775807

/-- Reads a text: digits, perhaps after a sign. -/
def read (text : String) : Except Fault Int64 :=
  match text.toList with
  | [] => .error .empty
  | ['+'] => .error .badDigit
  | ['-'] => .error .badDigit
  | '-' :: digits =>
    (magnitude (most + 1) .tooSmall digits 0).map fun n => Int64.ofInt (-(n : Int))
  | '+' :: digits => (magnitude most .tooLarge digits 0).map fun n => Int64.ofNat n
  | digits => (magnitude most .tooLarge digits 0).map fun n => Int64.ofNat n

end Curfew.Decimal.Signed
