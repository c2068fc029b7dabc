import Curfew.Decimal.Binary64

/-!
# The fewest digits that read back

**`Shortest.digits`** finds the shortest decimal that rounds to a given double, and among those of
that length the nearest. The decimals that round to a double fill an interval around it. For each
number of digits from 1 to 17 the two neighbours of the double on that decimal grid are tested; the
first grid with a hit decides. **`Binary64.render`** writes the digits without an exponent.
-/

namespace Curfew.Decimal

/-- A positive number `num / den`. -/
structure Ratio where
  num : Nat
  den : Nat

namespace Ratio

/-- `n * 2 ^ exponent`. -/
def dyadic (n : Nat) (exponent : Int) : Ratio :=
  if 0 ≤ exponent then ⟨n * Nat.pow 2 exponent.toNat, 1⟩ else ⟨n, Nat.pow 2 (-exponent).toNat⟩

/-- `n * 10 ^ exponent`. -/
def decimal (n : Nat) (exponent : Int) : Ratio :=
  if 0 ≤ exponent then ⟨n * Nat.pow 10 exponent.toNat, 1⟩ else ⟨n, Nat.pow 10 (-exponent).toNat⟩

/-- Whether `a` is less than `b`. -/
def less (a b : Ratio) : Bool := a.num * b.den < b.num * a.den

end Ratio

/-- The numbers that round to a double: those between the bounds, and the bounds themselves where
the mantissa is even. -/
structure Neighbourhood where
  low : Ratio
  value : Ratio
  high : Ratio
  closed : Bool

/-- The neighbourhood of `mantissa * 2 ^ exponent`. Below a power of two doubles lie closer. -/
def Neighbourhood.of (mantissa : Nat) (exponent : Int) : Neighbourhood :=
  let atPower := mantissa = Binary64.leadingBit ∧ Binary64.leastExponent < exponent
  { low := if atPower then .dyadic (4 * mantissa - 1) (exponent - 2)
      else .dyadic (2 * mantissa - 1) (exponent - 1)
    value := .dyadic mantissa exponent
    high := .dyadic (2 * mantissa + 1) (exponent - 1)
    closed := mantissa % 2 = 0 }

/-- Whether a number rounds to the double. -/
def Neighbourhood.holds (n : Neighbourhood) (x : Ratio) : Bool :=
  (n.low.less x || (n.closed && !x.less n.low)) && (x.less n.high || (n.closed && !n.high.less x))

namespace Shortest

/-- The power of ten `p` with `10 ^ (p - 1) ≤ x < 10 ^ p`, searched upwards from `start`. -/
def magnitudeFrom (x : Ratio) : Nat → Int → Int
  | 0, p => p
  | fuel + 1, p => if x.less (.decimal 1 p) then p else magnitudeFrom x fuel (p + 1)

/-- The power of ten `p` with `10 ^ (p - 1) ≤ x < 10 ^ p`, for a positive double. -/
def magnitude (x : Ratio) : Int :=
  let bits : Int := (x.num.log2 : Int) - (x.den.log2 : Int)
  magnitudeFrom x 8 (bits * 30103 / 100000 - 2)

/-- The neighbour on the grid `10 ^ place` that rounds to the double, the nearer one if both do,
and the upper one if both are as near. -/
def onGrid (n : Neighbourhood) (place : Int) : Option Nat :=
  let unit := Ratio.decimal 1 place
  let below := (n.value.num * unit.den) / (n.value.den * unit.num)
  let lower := Ratio.decimal below place
  let upper := Ratio.decimal (below + 1) place
  let middle := Ratio.decimal (2 * below + 1) place
  let nearerBelow := n.value.less ⟨middle.num, 2 * middle.den⟩
  match below ≠ 0 && n.holds lower, n.holds upper with
  | true, true => some (if nearerBelow then below else below + 1)
  | true, false => some below
  | false, true => some (below + 1)
  | false, false => none

/-- Tries grids from `count` digits upwards. A neighbour that is the next power of ten has one
digit. -/
def search (n : Neighbourhood) (top : Int) : Nat → Nat → Nat × Int
  | 0, _ => (0, 0)
  | fuel + 1, count =>
    match onGrid n (top - count) with
    | some found => if found = Nat.pow 10 count then (1, top) else (found, top - count)
    | none => search n top fuel (count + 1)

/-- The shortest decimal `digits * 10 ^ place` that rounds to a positive double; 17 digits always
do. -/
def digits (mantissa : Nat) (exponent : Int) : Nat × Int :=
  let n := Neighbourhood.of mantissa exponent
  search n (magnitude n.value) 17 1

end Shortest

/-- `digits * 10 ^ place` without an exponent, and with at least one place after the point. -/
def positional (digits : Nat) (place : Int) : String :=
  let ds := Nat.toDigits 10 digits
  let point : Int := ds.length + place
  let zeros (n : Int) : List Char := List.replicate n.toNat '0'
  String.ofList <|
    if point ≤ 0 then ['0', '.'] ++ zeros (-point) ++ ds
    else if (ds.length : Int) ≤ point then ds ++ zeros (point - ds.length) ++ ['.', '0']
    else ds.take point.toNat ++ ['.'] ++ ds.drop point.toNat

end Curfew.Decimal

namespace Curfew.Binary64

/-- The text of a double: the fewest digits that read back, never with an exponent, whole numbers
with `.0`. -/
def render : Binary64 → String
  | .notANumber => "NaN"
  | .infinite negative => if negative then "-inf" else "inf"
  | .finite negative mantissa exponent =>
    (if negative then "-" else "") ++
      if mantissa = 0 then "0.0"
      else
        let (digits, place) := Decimal.Shortest.digits mantissa exponent
        Decimal.positional digits place

end Curfew.Binary64
