import PrimeReasoner.Number.Double

/-!
# The shortest decimal form

A double-precision number is written with the fewest decimal digits from which it can be read back;
among these forms, with the one nearest to it.

* `Shortest.digits` finds the digits and the place of the point.
* `Double.text` writes a number: with a point as long as its first digit stands at most sixteen places
  before and at most four places behind the point, otherwise with an exponent of at least two digits.
-/

namespace PrimeReasoner

namespace Shortest

/-- Numerator and denominator of the number `significand * 2 ^ exponent`. -/
def quotient (significand : Nat) (exponent : Int) : Nat × Nat :=
  if exponent < 0 then (significand, twoPower exponent.natAbs)
  else (significand * twoPower exponent.natAbs, 1)

/-- The least power of ten that is above a quotient. -/
def magnitude (a b : Nat) : Int :=
  if b ≤ a then Double.decimalLength (a / b) else 1 - (Double.decimalLength (b / a) : Int)

/-- The two integers next to a quotient divided by a power of ten, the nearer one first; halfway, the
even one first. -/
def neighbours (a b : Nat) (power : Int) : List Nat :=
  let (a, b) :=
    if power < 0 then (a * tenPower power.natAbs, b) else (a, b * tenPower power.natAbs)
  let below := a / b
  if Double.roundedQuotient a b = below then [below, below + 1] else [below + 1, below]

/-- The first decimal of the given number of digits, or of more, from which the number is read back;
seventeen digits are always enough. -/
def digitsFrom (significand : Nat) (exponent : Int) (top : Int) : (more count : Nat) → Nat × Int
  | 0, _ => (0, 0)
  | more + 1, count =>
    let power := top - count
    let (a, b) := quotient significand exponent
    match (neighbours a b power).find? fun n =>
        Double.ofDecimal false n power == .finite false significand exponent with
    | some n => (n, power)
    | none => digitsFrom significand exponent top more (count + 1)

/-- The fewest digits that stand for a number, and the power of ten that the last of them counts. -/
def digits (significand : Nat) (exponent : Int) : Nat × Int :=
  let (a, b) := quotient significand exponent
  digitsFrom significand exponent (magnitude a b) 17 1

/-- The digits without zeros at their end. -/
def trimmed (s : List Char) : List Char := (s.reverse.dropWhile (· == '0')).reverse

/-- A number below one or with few digits, with a point behind the first `point` digits. -/
def positional (s : List Char) (point : Int) : List Char :=
  if point ≤ 0 then '0' :: '.' :: (List.replicate point.natAbs '0' ++ s)
  else
    let whole := s.take point.toNat ++ List.replicate (point.toNat - s.length) '0'
    let fraction := s.drop point.toNat
    whole ++ '.' :: (if fraction.isEmpty then ['0'] else fraction)

/-- A number as one digit, a point and further digits, and a power of ten. -/
def exponential (s : List Char) (point : Int) : List Char :=
  let power := point - 1
  let places := Nat.toDigits 10 power.natAbs
  let mark := ['e', if power < 0 then '-' else '+']
  let fraction := s.drop 1
  s.take 1 ++ (if fraction.isEmpty then [] else '.' :: fraction) ++ mark ++
    (List.replicate (2 - places.length) '0' ++ places)

/-- The form of a positive number. -/
def magnitudeText (significand : Nat) (exponent : Int) : List Char :=
  if significand = 0 then ['0', '.', '0']
  else
    let (n, power) := digits significand exponent
    let all := Nat.toDigits 10 n
    let point := all.length + power
    let s := trimmed all
    if -4 < point && point ≤ 16 then positional s point else exponential s point

end Shortest

namespace Double

/-- The words for the special values, as they are written. -/
structure Words where
  /-- The positive infinity. -/
  infinity : String
  /-- The undefined value. -/
  undefined : String

/-- The number as a text, with the given words for special values. -/
def textWith (words : Words) : Double → String
  | .finite negative significand exponent =>
    String.ofList ((if negative then ['-'] else []) ++ Shortest.magnitudeText significand exponent)
  | .infinite negative => (if negative then "-" else "") ++ words.infinity
  | .undefined => words.undefined

/-- The number as a text. -/
def text : Double → String := textWith ⟨"inf", "nan"⟩

end Double

end PrimeReasoner
