import Curfew.Text.Octets

/-!
# Arithmetic expressions of the shell

Expressions over 64-bit integers, with variables and assignments. **`evaluate`** yields the value
and the variables that were assigned to.
-/

namespace Curfew.Host.Shell.Arithmetic

open Text (Raw)

inductive Token
  | number (n : Int)
  | name (s : Raw)
  | op (s : String)
  /-- A character that no expression holds. -/
  | other (c : Char)
deriving DecidableEq, Repr

/-- The operators, longest first. -/
def operators : List String :=
  ["<<=", ">>=", "<<", ">>", "<=", ">=", "==", "!=", "&&", "||", "+=", "-=", "*=", "/=", "%=",
   "&=", "|=", "^=", "+", "-", "*", "/", "%", "(", ")", "<", ">", "=", "!", "~", "&", "|", "^",
   "?", ":", ","]

/-- The value of a digit; letters follow after 9. -/
def digitValue (c : Char) : Nat :=
  if c.isDigit then c.toNat - 48 else if c.isAlpha then c.toLower.toNat - 87 else 99

/-- The number at the start of a text, and what follows its digits. -/
def leading (base : Nat) (cs : List Char) : Nat × List Char :=
  let digits := cs.takeWhile fun c => digitValue c < base
  (digits.foldl (fun n c => n * base + digitValue c) 0, cs.drop digits.length)

/-- The number at the start of a text: hexadecimal after `0x`, octal after `0`, else decimal. -/
def leadingNumber (cs : List Char) : Nat × List Char :=
  match cs with
  | '0' :: x :: d :: rest =>
    if (x == 'x' || x == 'X') && digitValue d < 16 then leading 16 (d :: rest) else leading 8 cs
  | '0' :: _ => leading 8 cs
  | _ => leading 10 cs

/-- A number as it is written: perhaps behind blanks, with a sign; and what follows it. Nothing
follows that was not read where there are no digits. -/
def signedNumber (cs : List Char) : Int × List Char :=
  let body := cs.dropWhile fun c => c == ' ' || c == '\t' || c == '\n'
  let (negative, digits) := match body with
    | '-' :: ds => (true, ds)
    | '+' :: ds => (false, ds)
    | ds => (false, ds)
  if (digits.head?.map Char.isDigit).getD false then
    let (n, rest) := leadingNumber digits
    (if negative then -(n : Int) else (n : Int), rest)
  else (0, cs)

def tokens : Nat → List Char → List Token
  | 0, _ => []
  | _ + 1, [] => []
  | fuel + 1, c :: rest =>
    if c == ' ' || c == '\t' || c == '\n' then tokens fuel rest
    else if c.isDigit then
      let (n, rest) := leadingNumber (c :: rest)
      .number n :: tokens fuel rest
    else if c.isAlpha || c == '_' then
      let chars := (c :: rest).takeWhile fun c => c.isAlphanum || c == '_'
      .name (String.ofList chars) :: tokens fuel ((c :: rest).drop chars.length)
    else
      match operators.find? fun o => o.toList.isPrefixOf (c :: rest) with
      | some found => .op found :: tokens fuel ((c :: rest).drop found.length)
      | none => .other c :: tokens fuel rest

/-- Why an expression has no value. -/
inductive Failure
  | primaryExpected
  | colonExpected
  | parenthesisExpected
  | endExpected
  | divisionByZero
  /-- A variable holds no number. -/
  | illegalNumber (text : Raw)
deriving DecidableEq, Repr

/-- The words for a failure of the expression `text`. -/
def Failure.message (text : Raw) : Failure → Raw
  | .illegalNumber value => "Illegal number: " ++ value
  | .primaryExpected => about "expecting primary"
  | .colonExpected => about "expecting ':'"
  | .parenthesisExpected => about "expecting ')'"
  | .endExpected => about "expecting EOF"
  | .divisionByZero => about "division by zero"
where
  about (what : Raw) : Raw := "arithmetic expression: " ++ what ++ ": \"" ++ text ++ "\""

/-- The variables that an expression reads and assigns. -/
abbrev Variables := List (Raw × Int)

/-- A value, the variables, and the tokens after it. -/
abbrev Reading := Except Failure (Int × Variables × List Token)

/-- A number wrapped to 64 bits. -/
def wrap (n : Int) : Int := Int.bmod n 18446744073709551616

/-- The value of a comparison or a logical operator. -/
def truth (b : Bool) : Int := if b then 1 else 0

def applyOp (op : String) (a b : Int) : Except Failure Int :=
  match op with
  | "+" => .ok (wrap (a + b))
  | "-" => .ok (wrap (a - b))
  | "*" => .ok (wrap (a * b))
  | "/" => if b = 0 then .error .divisionByZero else .ok (wrap (Int.tdiv a b))
  | "%" => if b = 0 then .error .divisionByZero else .ok (Int.tmod a b)
  | "<<" => .ok (wrap (a * (Nat.pow 2 (b % 64).toNat : Nat)))
  | ">>" => .ok (a / (Nat.pow 2 (b % 64).toNat : Nat))
  | "<" => .ok (truth (a < b))
  | "<=" => .ok (truth (a ≤ b))
  | ">" => .ok (truth (b < a))
  | ">=" => .ok (truth (b ≤ a))
  | "==" => .ok (truth (a = b))
  | "!=" => .ok (truth (a ≠ b))
  | "&" => .ok (Int64.ofInt a &&& Int64.ofInt b).toInt
  | "^" => .ok (Int64.ofInt a ^^^ Int64.ofInt b).toInt
  | "|" => .ok (Int64.ofInt a ||| Int64.ofInt b).toInt
  | "&&" => .ok (truth (a ≠ 0 && b ≠ 0))
  | "||" => .ok (truth (a ≠ 0 || b ≠ 0))
  | _ => .error .primaryExpected

/-- How tightly a binary operator binds; 0 for none. -/
def strength : String → Nat
  | "||" => 1
  | "&&" => 2
  | "|" => 3
  | "^" => 4
  | "&" => 5
  | "==" | "!=" => 6
  | "<" | "<=" | ">" | ">=" => 7
  | "<<" | ">>" => 8
  | "+" | "-" => 9
  | "*" | "/" | "%" => 10
  | _ => 0

/-- The operator behind an operator of assignment. -/
def assignOp? : String → Option String
  | "=" => some ""
  | "+=" => some "+"
  | "-=" => some "-"
  | "*=" => some "*"
  | "/=" => some "/"
  | "%=" => some "%"
  | "<<=" => some "<<"
  | ">>=" => some ">>"
  | "&=" => some "&"
  | "|=" => some "|"
  | "^=" => some "^"
  | _ => none

/-- The value of a variable; one that is not there counts as zero. -/
def get (vars : Variables) (name : Raw) : Int :=
  ((vars.find? fun v => v.1 == name).map Prod.snd).getD 0

def set (vars : Variables) (name : Raw) (n : Int) : Variables :=
  (name, n) :: vars.filter fun v => v.1 != name

mutual

/-- An expression: an assignment, or a choice. -/
def expression : Nat → Variables → List Token → Reading
  | 0, _, _ => .error .primaryExpected
  | fuel + 1, vars, ts =>
    match ts with
    | .name x :: .op o :: rest =>
      match assignOp? o with
      | some op => do
        let (n, vars, rest) ← expression fuel vars rest
        let n ← if op == "" then .ok n else applyOp op (get vars x) n
        .ok (n, set vars x n, rest)
      | none => choice fuel vars ts
    | _ => choice fuel vars ts

/-- A binary expression, or a choice between two by its value. -/
def choice : Nat → Variables → List Token → Reading
  | 0, _, _ => .error .primaryExpected
  | fuel + 1, vars, ts => do
    let (test, vars, rest) ← binary fuel 1 vars ts
    match rest with
    | .op "?" :: rest => do
      let (yes, vars, rest) ← expression fuel vars rest
      match rest with
      | .op ":" :: rest => do
        let (no, vars, rest) ← expression fuel vars rest
        .ok (if test ≠ 0 then yes else no, vars, rest)
      | _ => .error .colonExpected
    | _ => .ok (test, vars, rest)

/-- Operands joined by operators that bind at least as tightly as `least`. -/
def binary : Nat → Nat → Variables → List Token → Reading
  | 0, _, _, _ => .error .primaryExpected
  | fuel + 1, least, vars, ts => do
    let (n, vars, rest) ← operand fuel vars ts
    binaryTail fuel least n vars rest

def binaryTail : Nat → Nat → Int → Variables → List Token → Reading
  | 0, _, _, _, _ => .error .primaryExpected
  | fuel + 1, least, left, vars, ts =>
    match ts with
    | .op o :: rest =>
      let s := strength o
      if s = 0 || s < least then .ok (left, vars, ts)
      else do
        let (right, vars, rest) ← binary fuel (s + 1) vars rest
        let n ← applyOp o left right
        binaryTail fuel least n vars rest
    | _ => .ok (left, vars, ts)

/-- A number, a variable, or an expression in parentheses, behind any signs. -/
def operand : Nat → Variables → List Token → Reading
  | 0, _, _ => .error .primaryExpected
  | fuel + 1, vars, ts =>
    match ts with
    | .number n :: rest => .ok (wrap n, vars, rest)
    | .name x :: rest => .ok (get vars x, vars, rest)
    | .op "(" :: rest => do
      let (n, vars, rest) ← expression fuel vars rest
      match rest with
      | .op ")" :: rest => .ok (n, vars, rest)
      | _ => .error .parenthesisExpected
    | .op "-" :: rest => do
      let (n, vars, rest) ← operand fuel vars rest
      .ok (wrap (-n), vars, rest)
    | .op "+" :: rest => operand fuel vars rest
    | .op "!" :: rest => do
      let (n, vars, rest) ← operand fuel vars rest
      .ok (truth (n = 0), vars, rest)
    | .op "~" :: rest => do
      let (n, vars, rest) ← operand fuel vars rest
      .ok (-n - 1, vars, rest)
    | _ => .error .primaryExpected

end

/-- The names whose values an expression may use: all but those that are only assigned to. -/
def names : List Token → List Raw
  | [] => []
  | .name _ :: .op "=" :: rest => names rest
  | .name s :: rest => s :: names rest
  | _ :: rest => names rest

/-- The names that an expression assigns to. -/
def assigned : List Token → List Raw
  | [] => []
  | .name s :: .op o :: rest =>
    if (assignOp? o).isSome then s :: assigned rest else assigned rest
  | _ :: rest => assigned rest

/-- The value of a text, and the variables that it assigns to. -/
def evaluate (text : Raw) (value : Raw → Except Failure Int) :
    Except Failure (Int × Variables) := do
  let ts := tokens (text.length + 1) text.toList
  let start ← (names ts).mapM fun name => (value name).map fun n => (name, n)
  let (n, vars, rest) ← expression (20 * ts.length + 20) start ts
  if rest.isEmpty then .ok (n, vars.filter fun v => (assigned ts).contains v.1)
  else .error .endExpected

end Curfew.Host.Shell.Arithmetic
