import Curfew.Toml.Text

/-!
# Numbers, dates and times

Digits may be set apart by single underscores. A number in decimal has no leading zero; one in
another base has no sign. Every integer fits 64 bits, and no float rounds to plus infinity.
-/

namespace Curfew.Toml

/-- Digits of a class, single underscores between them. -/
def digitTail (p : Char → Bool) : Nat → List Char → Reader (List Char)
  | 0, _, _ => none
  | fuel + 1, got, cur =>
    match cur.one? p with
    | some (c, cur) => digitTail p fuel (c :: got) cur
    | none =>
      match cur.expect '_' with
      | none => some (got.reverse, cur)
      | some cur => do
        let (c, cur) ← cur.one? p
        digitTail p fuel (c :: got) cur

/-- One or more digits of a class, single underscores between them. -/
def digitRun (p : Char → Bool) (cur : Cursor) : Option (List Char × Cursor) := do
  let (c, cur) ← cur.one? p
  digitTail p (cur.rest.length + 1) [c] cur

/-- A sign, if there is one; whether it is a minus. -/
def sign (cur : Cursor) : Bool × Cursor :=
  match cur.one? fun c => c == '+' || c == '-' with
  | some (c, cur) => (c == '-', cur)
  | none => (false, cur)

/-- The digits of a whole number in decimal: a lone zero, or no leading zero. -/
def decimalDigits (cur : Cursor) : Option (List Char × Cursor) :=
  match cur.expect '0' with
  | some cur => some (['0'], cur)
  | none => digitRun Char.isDigit cur

/-- An integer must fit 64 bits. -/
def integerInRange (n : Int) : Option Value :=
  if -9223372036854775808 ≤ n ∧ n < 9223372036854775808 then some (.integer n) else none

/-- An integer in the base of a marker such as `0x`. -/
def markedInteger (base : Nat) (p : Char → Bool) (cur : Cursor) : Option (Value × Cursor) := do
  let (digits, cur) ← digitRun p cur
  let value ← integerInRange (numberOf base digits)
  some (value, cur)

def integer (cur : Cursor) : Option (Value × Cursor) :=
  match cur.literal ['0', 'x'], cur.literal ['0', 'o'], cur.literal ['0', 'b'] with
  | some cur, _, _ => markedInteger 16 isHexDigit cur
  | _, some cur, _ => markedInteger 8 (fun c => '0' ≤ c && c ≤ '7') cur
  | _, _, some cur => markedInteger 2 (fun c => c == '0' || c == '1') cur
  | none, none, none => do
    let (negative, cur) := sign cur
    let (digits, cur) ← decimalDigits cur
    let n : Int := numberOf 10 digits
    let value ← integerInRange (if negative then -n else n)
    some (value, cur)

/-- The digits after the point, if there is one. -/
def fraction (cur : Cursor) : Option (List Char × Cursor) :=
  match cur.expect '.' with
  | some cur => digitRun Char.isDigit cur
  | none => some ([], cur)

/-- The exponent, if there is one. -/
def exponent (cur : Cursor) : Option (Option Int × Cursor) :=
  match cur.one? fun c => c == 'e' || c == 'E' with
  | none => some (none, cur)
  | some (_, cur) => do
    let (negative, cur) := sign cur
    let (digits, cur) ← digitRun Char.isDigit cur
    let n : Int := numberOf 10 digits
    some (some (if negative then -n else n), cur)

/-- What a text that begins like a number turns out to be. -/
inductive FloatReading
  /-- Neither point nor exponent follows. -/
  | notFloat
  | malformed
  | float (x : Binary64) (cur : Cursor)

/-- The number of digits before the point, those after it, and the exponent. -/
def assemble (negative : Bool) (whole fraction : List Char) (exponent : Int) : Binary64 :=
  .ofDecimal negative (numberOf 10 (whole ++ fraction)) (exponent - fraction.length)

def digitFloat (cur : Cursor) : FloatReading :=
  let (negative, cur) := sign cur
  match decimalDigits cur with
  | none => .notFloat
  | some (whole, cur) =>
    match fraction cur with
    | none => .malformed
    | some (places, afterPlaces) =>
      match exponent afterPlaces with
      | none => .malformed
      | some (none, cur) =>
        if places.isEmpty then .notFloat else .float (assemble negative whole places 0) cur
      | some (some e, cur) => .float (assemble negative whole places e) cur

/-- An infinity or a not-a-number, with or without a sign. -/
def specialFloat (cur : Cursor) : Option (Value × Cursor) :=
  let (negative, cur) := sign cur
  match cur.literal ['i', 'n', 'f'], cur.literal ['n', 'a', 'n'] with
  | some cur, _ => some (.float (.infinite negative), cur)
  | _, some cur => some (.float .notANumber, cur)
  | none, none => none

/-! ## Dates and times -/

/-- Exactly `width` digits that stand for a number between `least` and `most`. -/
def fixedNumber (width least most : Nat) (cur : Cursor) : Option (Nat × Cursor) := do
  let (digits, cur) ← cur.takeBetween width width Char.isDigit
  let n := numberOf 10 digits
  if least ≤ n ∧ n ≤ most then some (n, cur) else none

/-- The number of days of a month. -/
def daysInMonth (year month : Nat) : Nat :=
  if month = 2 then
    if year % 4 = 0 ∧ (year % 100 ≠ 0 ∨ year % 400 = 0) then 29 else 28
  else if month = 4 ∨ month = 6 ∨ month = 9 ∨ month = 11 then 30
  else 31

/-- What a text that begins with digits turns out to be. -/
inductive DateReading
  | notDate
  | malformed
  | date (cur : Cursor)

/-- Minutes, seconds and their fraction, past the colon after the hour. -/
def afterHour (cur : Cursor) : Option Cursor := do
  let (_, cur) ← fixedNumber 2 0 59 cur
  let cur ← cur.expect ':'
  let (_, cur) ← fixedNumber 2 0 60 cur
  match cur.expect '.' with
  | none => some cur
  | some cur => (cur.takeBetween 1 cur.rest.length Char.isDigit).map Prod.snd

def timeOfDay (cur : Cursor) : DateReading :=
  match fixedNumber 2 0 23 cur with
  | none => .notDate
  | some (_, cur) =>
    match cur.expect ':' with
    | none => .notDate
    | some cur =>
      match afterHour cur with
      | none => .malformed
      | some cur => .date cur

/-- An offset from UTC, if there is one. -/
def offset (cur : Cursor) : DateReading :=
  match cur.one? fun c => c == 'Z' || c == 'z' with
  | some (_, cur) => .date cur
  | none =>
    match cur.one? fun c => c == '+' || c == '-' with
    | none => .date cur
    | some (_, cur) =>
      let reading : Option Cursor := do
        let (_, cur) ← fixedNumber 2 0 23 cur
        let cur ← cur.expect ':'
        let (_, cur) ← fixedNumber 2 0 59 cur
        some cur
      match reading with
      | none => .malformed
      | some cur => .date cur

/-- Month and day, past the dash after the year. -/
def afterYear (year : Nat) (cur : Cursor) : Option Cursor := do
  let (month, cur) ← fixedNumber 2 1 12 cur
  let cur ← cur.expect '-'
  let (day, cur) ← fixedNumber 2 1 31 cur
  if day ≤ daysInMonth year month then some cur else none

/-- A date, with a time after it if there is one. -/
def dateTime (cur : Cursor) : DateReading :=
  match fixedNumber 4 0 9999 cur with
  | none => timeOfDay cur
  | some (year, afterDigits) =>
    match afterDigits.expect '-' with
    | none => timeOfDay cur
    | some afterDash =>
      match afterYear year afterDash with
      | none => .malformed
      | some day =>
        match day.one? fun c => c == 'T' || c == 't' || c == ' ' with
        | none => .date day
        | some (_, cur) =>
          match timeOfDay cur with
          | .notDate => .date day
          | .malformed => .malformed
          | .date cur => offset cur

/-! ## Values that begin with a digit or a sign -/

/-- A date, a float or an integer, tried in this order. Once a text has begun like one of the first
two past doubt, it is that or malformed. -/
def numberOrDate (cur : Cursor) : Option (Value × Cursor) :=
  match dateTime cur with
  | .malformed => none
  | .date cur => some (.dateTime, cur)
  | .notDate =>
    match digitFloat cur with
    | .malformed => none
    | .float (.infinite false) _ => none
    | .float x cur => some (.float x, cur)
    | .notFloat =>
      match specialFloat cur with
      | some reading => some reading
      | none => integer cur

end Curfew.Toml
