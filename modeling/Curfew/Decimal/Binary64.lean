/-!
# Double-precision numbers in exact arithmetic

A **`Binary64`** is not a number, an infinity, or a mantissa times a power of two with a sign.
**`Binary64.nearest`** rounds a quotient of natural numbers to the nearest double, a tie going to
the even mantissa, and **`Binary64.ofDecimal`** does so for a decimal number.
-/

namespace Curfew

/-- A double. A finite one stands for `mantissa * 2 ^ exponent`, where the mantissa has 53 bits, or
fewer if the exponent is the least one, -1074. -/
inductive Binary64
  | notANumber
  | infinite (negative : Bool)
  | finite (negative : Bool) (mantissa : Nat) (exponent : Int)
deriving DecidableEq, Repr

namespace Binary64

/-- The least exponent. -/
def leastExponent : Int := -1074

def greatestExponent : Int := 971

/-- The leading one of a mantissa of 53 bits. -/
def leadingBit : Nat := 4503599627370496

/-- `num / den` rounded to a whole number, a tie going to the even one. -/
def roundEven (num den : Nat) : Nat :=
  let q := num / den
  let r := num % den
  if 2 * r < den then q
  else if 2 * r = den then q + q % 2
  else q + 1

/-- The quotient `num / den` in units of `2 ^ exponent`, as a pair to be divided. -/
def scaled (num den : Nat) (exponent : Int) : Nat × Nat :=
  if 0 ≤ exponent then (num, den * Nat.pow 2 exponent.toNat)
  else (num * Nat.pow 2 (-exponent).toNat, den)

/-- The exponent at which `num / den` has a mantissa of 53 bits: an estimate from the lengths of
both, or the one below it. -/
def fittingExponent (num den : Nat) : Int :=
  let estimate : Int := (num.log2 : Int) - (den.log2 : Int) - 52
  let (n, d) := scaled num den estimate
  if n < d * leadingBit then estimate - 1 else estimate

/-- The double nearest to `num / den`, with a sign. -/
def nearest (negative : Bool) (num den : Nat) : Binary64 :=
  if num = 0 then .finite negative 0 leastExponent
  else
    let exponent := max (fittingExponent num den) leastExponent
    let (n, d) := scaled num den exponent
    let mantissa := roundEven n d
    let (mantissa, exponent) :=
      if mantissa = 2 * leadingBit then (leadingBit, exponent + 1) else (mantissa, exponent)
    if greatestExponent < exponent then .infinite negative
    else .finite negative mantissa exponent

/-- The double nearest to `digits * 10 ^ exponent`, with a sign. Numbers past either end of the
range are settled by their number of digits, without raising ten to a huge power. -/
def ofDecimal (negative : Bool) (digits : Nat) (exponent : Int) : Binary64 :=
  if digits = 0 then .finite negative 0 leastExponent
  else
    let magnitude : Int := (Nat.toDigits 10 digits).length + exponent
    if 400 < magnitude then .infinite negative
    else if magnitude < -400 then .finite negative 0 leastExponent
    else if 0 ≤ exponent then nearest negative (digits * Nat.pow 10 exponent.toNat) 1
    else nearest negative digits (Nat.pow 10 (-exponent).toNat)

example : ofDecimal false 15 (-1) = .finite false 6755399441055744 (-52) := by decide +kernel

/-- Half of the least positive double goes to zero, which is even. -/
example : nearest false 1 (Nat.pow 2 1075) = .finite false 0 (-1074) := by decide +kernel

end Binary64

end Curfew
