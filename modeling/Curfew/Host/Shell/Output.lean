import Curfew.Host.Shell.Arithmetic

/-!
# The text that `echo` and `printf` write

Backslash escapes, and the directives of a format.
-/

namespace Curfew.Host.Shell.Output

open Text (Raw)

/-- The number that up to `most` octal digits stand for, and what follows them. -/
def octal (most : Nat) (cs : List Char) : Nat × List Char :=
  let digits := (cs.take most).takeWhile fun c => '0' ≤ c && c ≤ '7'
  (digits.foldl (fun n c => n * 8 + (c.toNat - 48)) 0, cs.drop digits.length)

/-- The character of a one-letter escape. -/
def letterEscape? : Char → Option Char
  | 'a' => some '\x07'
  | 'b' => some '\x08'
  | 'f' => some '\x0c'
  | 'n' => some '\n'
  | 'r' => some '\r'
  | 't' => some '\t'
  | 'e' => some '\x1b'
  | 'v' => some '\x0b'
  | '\\' => some '\\'
  | _ => none

def byteChar (n : Nat) : Char := Char.ofNat (n % 256)

/-- Replaces escapes in a text. Octal escapes open with a zero, or with `bare` with any octal digit.
Whether an escape asked for no more output comes back as well. -/
def unescape (bare : Bool) : Nat → List Char → List Char × Bool
  | 0, cs => (cs, false)
  | _ + 1, [] => ([], false)
  | fuel + 1, '\\' :: e :: rest =>
    let further (c : Char) (rest : List Char) : List Char × Bool :=
      let (cs, stop) := unescape bare fuel rest
      (c :: cs, stop)
    if e == 'c' && !bare then ([], true)
    else if e == '0' && !bare then
      let (n, rest) := octal 3 rest
      further (byteChar n) rest
    else if bare && '0' ≤ e && e ≤ '7' then
      let (n, rest) := octal 3 (e :: rest)
      further (byteChar n) rest
    else
      match letterEscape? e with
      | some c => further c rest
      | none =>
        let (cs, stop) := unescape bare fuel rest
        ('\\' :: e :: cs, stop)
  | fuel + 1, c :: rest =>
    let (cs, stop) := unescape bare fuel rest
    (c :: cs, stop)

/-- What `echo` writes. -/
def echo (args : List Raw) : Raw :=
  let (newline, args) := match args with
    | "-n" :: rest => (false, rest)
    | args => (true, args)
  let text := (String.intercalate " " args).toList
  let (cs, stop) := unescape false (text.length + 1) text
  String.ofList (if newline && !stop then cs ++ ['\n'] else cs)

structure Directive where
  left : Bool
  zeros : Bool
  plus : Bool
  blank : Bool
  width : Nat
  precision : Option Nat
  conversion : Char

/-- The digits of a number in a base. -/
def digitsIn (base n : Nat) : List Char := Nat.toDigits base n

def pad (d : Directive) (numeric : Bool) (cs : List Char) : List Char :=
  let missing := d.width - cs.length
  if d.left then cs ++ List.replicate missing ' '
  else if d.zeros && numeric then
    match cs with
    | '-' :: ds => '-' :: List.replicate missing '0' ++ ds
    | '+' :: ds => '+' :: List.replicate missing '0' ++ ds
    | ' ' :: ds => ' ' :: List.replicate missing '0' ++ ds
    | ds => List.replicate missing '0' ++ ds
  else List.replicate missing ' ' ++ cs

/-- The number that an argument stands for, and a complaint if it is not all of a number. -/
def numeral (arg : Raw) : Int × List Raw :=
  match arg.toList with
  | '\'' :: c :: _ => (c.toNat, [])
  | '"' :: c :: _ => (c.toNat, [])
  | cs =>
    let (n, rest) := Arithmetic.signedNumber cs
    if rest.isEmpty then (n, [])
    else if rest.length = cs.length then (n, [arg ++ ": expected numeric value"])
    else (n, [arg ++ ": not completely converted"])

/-- What formatting comes to: the text, complaints about arguments, whether it ends early, and
whether that is because of a directive that there is not. -/
structure Formatted where
  text : List Char
  complaints : List Raw
  stop : Bool
  invalid : Bool

/-- What a directive writes for an argument. -/
def convert (d : Directive) (arg : Raw) : Formatted :=
  let (n, complaints) := numeral arg
  let filled (ds : List Char) : List Char :=
    List.replicate (d.precision.getD 0 - ds.length) '0' ++ ds
  let signed : List Char :=
    let ds := filled (digitsIn 10 n.natAbs)
    if n < 0 then '-' :: ds else if d.plus then '+' :: ds else if d.blank then ' ' :: ds else ds
  let unsigned (base : Nat) : List Char := filled (digitsIn base (n % 18446744073709551616).toNat)
  let word (cs : List Char) : Formatted := ⟨pad d false cs, [], false, false⟩
  let number (cs : List Char) : Formatted :=
    ⟨pad d d.precision.isNone cs, complaints, false, false⟩
  match d.conversion with
  | 's' => word ((d.precision.map fun n => arg.toList.take n).getD arg.toList)
  | 'c' => word (arg.toList.take 1)
  | 'b' =>
    let (cs, stop) := unescape false (arg.length + 1) arg.toList
    ⟨pad d false cs, [], stop, false⟩
  | 'd' | 'i' => number signed
  | 'u' => number (unsigned 10)
  | 'x' => number (unsigned 16)
  | 'X' => number ((unsigned 16).map Char.toUpper)
  | 'o' => number (unsigned 8)
  | c => ⟨[], ["%" ++ String.singleton c ++ ": invalid directive"], true, true⟩

def readFlags (d : Directive) : List Char → Directive × List Char
  | '-' :: rest => readFlags { d with left := true } rest
  | '0' :: rest => readFlags { d with zeros := true } rest
  | '+' :: rest => readFlags { d with plus := true } rest
  | ' ' :: rest => readFlags { d with blank := true } rest
  | '#' :: rest => readFlags d rest
  | cs => (d, cs)

/-- The number at the start of a text. -/
def leadingNumber (cs : List Char) : Nat × List Char :=
  let ds := cs.takeWhile Char.isDigit
  (ds.foldl (fun n c => n * 10 + (c.toNat - 48)) 0, cs.drop ds.length)

/-- A number in a directive, or, for an asterisk, the one that the next argument gives. -/
def directiveNumber (cs : List Char) (args : List Raw) : Int × List Char × List Raw :=
  match cs with
  | '*' :: rest => ((numeral (args.head?.getD "")).1, rest, args.drop 1)
  | _ =>
    let (n, rest) := leadingNumber cs
    (n, rest, args)

/-- A directive past its percent sign, what follows it, and the arguments left for it. -/
def readDirective (cs : List Char) (args : List Raw) : Directive × List Char × List Raw :=
  let (d, cs) := readFlags ⟨false, false, false, false, 0, none, ' '⟩ cs
  let (width, cs, args) := directiveNumber cs args
  let d := { d with left := d.left || width < 0, width := width.natAbs }
  let (d, cs, args) := match cs with
    | '.' :: rest =>
      let (n, rest, args) := directiveNumber rest args
      ({ d with precision := if n < 0 then none else some n.natAbs }, rest, args)
    | cs => (d, cs, args)
  match cs with
  | c :: rest => ({ d with conversion := c }, rest, args)
  | [] => (d, [], args)

/-- One pass over a format: what it comes to, the arguments left, and whether it used any. -/
def formatOnce : Nat → List Char → List Raw → Formatted × List Raw × Bool
  | 0, _, args => (⟨[], [], true, false⟩, args, false)
  | _ + 1, [], args => (⟨[], [], false, false⟩, args, false)
  | fuel + 1, '%' :: '%' :: rest, args =>
    let (f, args, used) := formatOnce fuel rest args
    ({ f with text := '%' :: f.text }, args, used)
  | fuel + 1, '%' :: rest, args =>
    let (d, rest, args) := readDirective rest args
    let first := convert d (args.head?.getD "")
    if first.stop then (first, args.drop 1, true)
    else
      let (f, args, _) := formatOnce fuel rest (args.drop 1)
      ({ f with text := first.text ++ f.text, complaints := first.complaints ++ f.complaints },
        args, true)
  | fuel + 1, c :: rest, args =>
    let (f, args, used) := formatOnce fuel rest args
    ({ f with text := c :: f.text }, args, used)

/-- Passes over a format until the arguments are used up. -/
def formatAll : Nat → List Char → List Raw → Formatted
  | 0, _, _ => ⟨[], [], true, false⟩
  | fuel + 1, format, args =>
    let (first, left, used) := formatOnce (format.length + 1) format args
    if first.stop || !used || left.isEmpty then first
    else
      let f := formatAll fuel format left
      { f with text := first.text ++ f.text, complaints := first.complaints ++ f.complaints }

/-- What `printf` writes and complains of. -/
def printf (format : Raw) (args : List Raw) : Formatted :=
  let (cs, _) := unescape true (format.length + 1) format.toList
  formatAll (args.length + 1) cs args

end Curfew.Host.Shell.Output
