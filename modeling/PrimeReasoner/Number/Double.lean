/-!
# Double-precision numbers

Numbers with a point are kept in double precision: a significand of at most 53 binary digits times a
power of two, with signed zeros, two infinities and one undefined value. All arithmetic is carried
out exactly on integers and rounded once, to the nearest number and, halfway between two, to the one
with the even significand.

* `Double.nearest` rounds a quotient; `Double.ofDecimal` and `Double.ofInt` rest on it.
* `Double.add`, `Double.mul` and `Double.neg` are the arithmetic.
* `Double.floor?` and `Double.isBelow` compare a number with integers.
-/

namespace PrimeReasoner

/-- A power of two. -/
def twoPower (exponent : Nat) : Nat := Nat.pow 2 exponent

/-- A power of ten. -/
def tenPower (exponent : Nat) : Nat := Nat.pow 10 exponent

/-- A double-precision number. -/
inductive Double where
  /-- The number `significand * 2 ^ exponent`, or its negative. -/
  | finite (negative : Bool) (significand : Nat) (exponent : Int)
  /-- Beyond all finite numbers. -/
  | infinite (negative : Bool)
  /-- No number at all. -/
  | undefined
deriving DecidableEq, Repr

namespace Double

/-- The smallest exponent of a finite number. -/
def minExponent : Int := -1074

/-- The largest exponent of a finite number. -/
def maxExponent : Int := 971

/-- How many binary digits a significand may have. -/
def precision : Nat := 53

/-- Zero, with its sign. -/
def zero (negative : Bool) : Double := .finite negative 0 minExponent

/-- The quotient of two numbers, rounded to the nearest integer, and halfway to the even one. -/
def roundedQuotient (a b : Nat) : Nat :=
  let whole := a / b
  let twice := 2 * (a % b)
  if twice < b then whole
  else if b < twice then whole + 1
  else whole + whole % 2

/-- Numerator and denominator of a quotient divided by a power of two. -/
def scale (a b : Nat) (exponent : Int) : Nat × Nat :=
  if exponent < 0 then (a * twoPower exponent.natAbs, b)
  else (a, b * twoPower exponent.natAbs)

/-- The exponent with which a quotient has a significand of full precision, or the smallest one. -/
def exponentOf (a b : Nat) : Int :=
  let low : Int := (a.log2 : Int) - b.log2 - precision
  let (a, b) := scale a b low
  max minExponent (if a < b * twoPower precision then low else low + 1)

/-- The number nearest to a quotient, with the given sign. -/
def nearest (negative : Bool) (a b : Nat) : Double :=
  if a = 0 then zero negative
  else
    let exponent := exponentOf a b
    let (a, b) := scale a b exponent
    let significand := roundedQuotient a b
    let (significand, exponent) :=
      if significand = twoPower precision then (twoPower (precision - 1), exponent + 1)
      else (significand, exponent)
    if maxExponent < exponent then .infinite negative else .finite negative significand exponent

/-- The number nearest to an integer. -/
def ofInt (n : Int) : Double := nearest (n < 0) n.natAbs 1

/-- The number nearest to `significand * 2 ^ exponent`, with the given sign. -/
def ofDyadic (negative : Bool) (significand : Nat) (exponent : Int) : Double :=
  if exponent < 0 then nearest negative significand (twoPower exponent.natAbs)
  else nearest negative (significand * twoPower exponent.natAbs) 1

/-- The number of decimal digits. -/
def decimalLength (n : Nat) : Nat := (Nat.toDigits 10 n).length

/-- The number nearest to `digits * 10 ^ exponent`, with the given sign. What is far beyond the range
is not computed. -/
def ofDecimal (negative : Bool) (digits : Nat) (exponent : Int) : Double :=
  let magnitude : Int := decimalLength digits + exponent
  if digits = 0 || magnitude < -400 then zero negative
  else if 400 < magnitude then .infinite negative
  else if exponent < 0 then nearest negative digits (tenPower exponent.natAbs)
  else nearest negative (digits * tenPower exponent.natAbs) 1

/-- The number with the opposite sign. -/
def neg : Double → Double
  | .finite negative significand exponent => .finite (!negative) significand exponent
  | .infinite negative => .infinite (!negative)
  | .undefined => .undefined

/-- A significand with a sign, shifted from one exponent down to a smaller one. -/
def shifted (negative : Bool) (significand : Nat) (exponent least : Int) : Int :=
  let magnitude : Int := (significand * twoPower (exponent - least).toNat : Nat)
  if negative then -magnitude else magnitude

/-- The sum. Opposite numbers add up to the positive zero. -/
def add : Double → Double → Double
  | .undefined, _ | _, .undefined => .undefined
  | .infinite a, .infinite b => if a == b then .infinite a else .undefined
  | .infinite a, _ | _, .infinite a => .infinite a
  | .finite a m e, .finite b n f =>
    let least := min e f
    let sum := shifted a m e least + shifted b n f least
    if sum = 0 then zero (a && b) else ofDyadic (sum < 0) sum.natAbs least

/-- The product. -/
def mul : Double → Double → Double
  | .undefined, _ | _, .undefined => .undefined
  | .infinite a, .infinite b => .infinite (a != b)
  | .infinite a, .finite b n _ | .finite b n _, .infinite a =>
    if n = 0 then .undefined else .infinite (a != b)
  | .finite a m e, .finite b n f => ofDyadic (a != b) (m * n) (e + f)

/-- Is the number zero, with either sign? -/
def isZero : Double → Bool
  | .finite _ significand _ => significand == 0
  | _ => false

/-- Has the number a finite value? -/
def isFinite : Double → Bool
  | .finite .. => true
  | _ => false

/-- The largest integer that is not above a finite number. -/
def floor? : Double → Option Int
  | .finite negative significand exponent =>
    let signed : Int := if negative then -significand else significand
    some (if exponent < 0 then signed / (twoPower exponent.natAbs : Int)
      else signed * (twoPower exponent.natAbs : Int))
  | _ => none

/-- Is the number below the integer? -/
def isBelow (x : Double) (n : Int) : Bool :=
  match x with
  | .finite .. => (x.floor?.map fun whole => decide (whole < n)).getD false
  | .infinite negative => negative
  | .undefined => false

/-- The integer that a number is equal to, if there is one. -/
def integer? (x : Double) : Option Int :=
  match x, x.floor? with
  | .finite _ significand exponent, some n =>
    if 0 ≤ exponent || significand % twoPower exponent.natAbs = 0 then some n else none
  | _, _ => none

/-- Do two numbers have the same value? Both zeros do, and the undefined value never does. -/
def sameValue (x y : Double) : Bool := x != .undefined && (x == y || (x.isZero && y.isZero))

end Double

end PrimeReasoner
