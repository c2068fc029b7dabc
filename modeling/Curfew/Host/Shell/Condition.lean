import Curfew.Host.Call
import Curfew.Host.Shell.Expand

/-!
# The conditions of `test`

**`Condition.holds`** decides a condition from its words, or says what is wrong with them. A word
that could be an operator counts as an operand where only an operand makes sense.
-/

namespace Curfew.Host.Shell.Condition

open Text (Raw)

inductive Fault
  | unexpectedOperator (word : Raw)
  | argumentExpected (op : Raw)
  | parenthesisExpected
  | illegalNumber (word : Raw)
deriving DecidableEq, Repr

def Fault.message : Fault → Raw
  | .unexpectedOperator word =>
    if word == "" then "unexpected operator" else word ++ ": unexpected operator"
  | .argumentExpected op => op ++ ": argument expected"
  | .parenthesisExpected => "closing paren expected"
  | .illegalNumber word => "Illegal number: " ++ word

inductive Kind
  | unary
  | binary
  | negation
  | conjunction
  | disjunction
  | opening
  | closing
  | operand
  /-- No word at all. -/
  | nothing
deriving DecidableEq, Repr

def unaryOps : List Raw :=
  ["-r", "-w", "-x", "-e", "-f", "-d", "-c", "-b", "-p", "-u", "-g", "-k", "-s", "-t", "-z", "-n",
   "-h", "-O", "-G", "-L", "-S"]

def binaryOps : List Raw :=
  ["=", "!=", "<", ">", "-eq", "-ne", "-ge", "-gt", "-le", "-lt", "-nt", "-ot", "-ef"]

/-- What a word would be as an operator. -/
def operator? (word : Raw) : Option Kind :=
  if unaryOps.contains word then some .unary
  else if binaryOps.contains word then some .binary
  else if word == "!" then some .negation
  else if word == "-a" then some .conjunction
  else if word == "-o" then some .disjunction
  else if word == "(" then some .opening
  else if word == ")" then some .closing
  else none

/-- What the first of some words is. An operator on one operand that has none, or that stands before
an operator on two, is an operand itself. -/
def kind : List Raw → Kind
  | [] => .nothing
  | word :: rest =>
    match operator? word with
    | none => .operand
    | some .unary =>
      match rest with
      | [] => .operand
      | [_] => .unary
      | next :: _ => if operator? next = some .binary then .operand else .unary
    | some .opening => if rest.isEmpty then .operand else .opening
    | some k => k

/-- The number that a word stands for. -/
def number (word : Raw) : Except Fault Int :=
  let trimmed := word.toList.filter fun c => c != ' ' && c != '\t'
  let (negative, digits) := match trimmed with
    | '-' :: ds => (true, ds)
    | '+' :: ds => (false, ds)
    | ds => (false, ds)
  if digits.isEmpty || !digits.all Char.isDigit then .error (.illegalNumber word)
  else
    let n : Nat := digits.foldl (fun n c => n * 10 + (c.toNat - 48)) 0
    .ok (if negative then -(n : Int) else (n : Int))

def isLink (v : View) (path : Raw) : Bool :=
  match v.files.locate v.cwd path.bytes false false with
  | .ok place =>
    match v.files.find? place with
    | some (.link _) => true
    | _ => false
  | .error _ => false

def unary (v : View) (op operand : Raw) : Bool :=
  let node := v.node? operand
  match op with
  | "-n" => operand != ""
  | "-z" => operand == ""
  | "-e" | "-r" | "-w" | "-O" | "-G" => node.isSome
  | "-f" =>
    match node with
    | some (.file _ _) => true
    | some (.program _) => true
    | _ => false
  | "-d" => node == some .directory
  | "-c" =>
    match node with
    | some (.device _) => true
    | _ => false
  | "-s" =>
    match node with
    | some (.file body _) => !body.isEmpty
    | some (.device _) => false
    | none => false
    | _ => true
  | "-x" => v.isExecutable operand || node == some .directory
  | "-L" | "-h" => isLink v operand
  | _ => false

def binary (op a b : Raw) : Except Fault Bool :=
  let compare (f : Int → Int → Bool) : Except Fault Bool := do
    let x ← number a
    let y ← number b
    return f x y
  match op with
  | "=" => .ok (a == b)
  | "!=" => .ok (a != b)
  | "<" => .ok (a < b)
  | ">" => .ok (b < a)
  | "-eq" => compare fun x y => x == y
  | "-ne" => compare fun x y => x != y
  | "-lt" => compare fun x y => x < y
  | "-le" => compare fun x y => x ≤ y
  | "-gt" => compare fun x y => y < x
  | "-ge" => compare fun x y => y ≤ x
  | _ => .ok false

/-- What a part of a condition comes to, and the words from its last one on. -/
abbrev Result := Except Fault (Bool × List Raw)

mutual

/-- Parts joined by `-o`. The first word is of kind `k`. -/
def either (v : View) : Nat → Kind → List Raw → Result
  | 0, _, words => .ok (false, words)
  | fuel + 1, k, words => do
    let (a, last) ← both v fuel k words
    if kind (last.drop 1) = .disjunction then
      let rest := last.drop 2
      let (b, last) ← either v fuel (kind rest) rest
      return (a || b, last)
    else return (a, last)

/-- Parts joined by `-a`. -/
def both (v : View) : Nat → Kind → List Raw → Result
  | 0, _, words => .ok (false, words)
  | fuel + 1, k, words => do
    let (a, last) ← negated v fuel k words
    if kind (last.drop 1) = .conjunction then
      let rest := last.drop 2
      let (b, last) ← both v fuel (kind rest) rest
      return (a && b, last)
    else return (a, last)

/-- A part, perhaps behind exclamation marks. -/
def negated (v : View) : Nat → Kind → List Raw → Result
  | 0, _, words => .ok (false, words)
  | fuel + 1, k, words =>
    if k = .negation then
      let rest := words.drop 1
      match kind rest with
      | .nothing => .ok (true, words)
      | k => (negated v fuel k rest).map fun r => (!r.1, r.2)
    else primary v fuel k words

/-- A part that is not joined or negated. -/
def primary (v : View) : Nat → Kind → List Raw → Result
  | 0, _, words => .ok (false, words)
  | fuel + 1, k, words =>
    match k, words with
    | .nothing, _ => .ok (false, words)
    | .opening, _ =>
      let rest := words.drop 1
      match kind rest with
      | .closing => .ok (false, rest)
      | k => do
        let (r, last) ← either v fuel k rest
        if kind (last.drop 1) = .closing then return (r, last.drop 1)
        else .error .parenthesisExpected
    | .unary, op :: rest =>
      match rest with
      | [] => .error (.argumentExpected op)
      | operand :: _ => .ok (unary v op operand, rest)
    | _, a :: op :: rest =>
      if kind (op :: rest) = .binary then
        match rest with
        | [] => .error (.argumentExpected op)
        | b :: _ => (binary op a b).map fun r => (r, rest)
      else .ok (a != "", words)
    | _, [a] => .ok (a != "", words)
    | _, [] => .ok (false, [])

end

/-- Whether the condition in some words holds; no words are one that does not. Of three words the
middle one is an operator if it can be. -/
def holds (v : View) : Nat → List Raw → Except Fault Bool
  | 0, _ => .ok false
  | fuel + 1, words =>
    let whole (k : Kind) (words : List Raw) : Except Fault Bool := do
      let (r, last) ← either v (8 * words.length + 8) k words
      match last with
      | word :: _ :: _ => .error (.unexpectedOperator word)
      | _ => return r
    let bracketed := words.head? == some "(" && words.getLast? == some ")"
    let inner := (words.drop 1).dropLast
    match words with
    | [] => .ok false
    | [_, op, _] =>
      if operator? op = some .binary then whole .operand words
      else if bracketed then whole (kind inner) inner
      else if words.head? == some "!" then (holds v fuel (words.drop 1)).map not
      else whole (kind words) words
    | [_, _, _, _] =>
      if bracketed then whole (kind inner) inner
      else if words.head? == some "!" then (holds v fuel (words.drop 1)).map not
      else whole (kind words) words
    | _ => whole (kind words) words

end Curfew.Host.Shell.Condition
