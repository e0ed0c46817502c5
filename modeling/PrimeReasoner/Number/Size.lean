import PrimeReasoner.Number.Double

/-!
# Sizes of memory

A number of bytes is told in the largest unit of which there is at least one, where each unit is 1024
times the one before, to three digits.
-/

namespace PrimeReasoner

/-- The units, from bytes on. -/
def sizeUnits : List String := ["bytes", "KiB", "MiB", "GiB", "TiB", "PiB", "EiB"]

/-- The quotient of two numbers with the given number of places behind the point; the point stays also
where no place follows. -/
def fixedPoint (places a b : Nat) : String :=
  let digits := Nat.toDigits 10 (Double.roundedQuotient (a * tenPower places) b)
  let padded := List.replicate (places + 1 - digits.length) '0' ++ digits
  String.ofList (padded.take (padded.length - places) ++ '.' :: padded.drop (padded.length - places))

/-- How many places behind the point make up three digits of the rounded quotient. -/
def placesFor (a b : Nat) : Nat :=
  if Double.roundedQuotient (a * 100) b < 1000 then 2
  else if Double.roundedQuotient (a * 10) b < 1000 then 1
  else 0

/-- A number of bytes in a fitting unit. The bytes are counted in double precision. -/
def sizeText (bytes : Nat) : String :=
  let counted := (Double.ofInt bytes).floor?.getD 0 |>.toNat
  let unit := (max (bytes.log2) 1) / 10
  let unit := if Double.roundedQuotient counted (twoPower (10 * unit)) = 1024 then unit + 1 else unit
  let name := sizeUnits.getD unit "EiB"
  if unit = 0 then s!"{bytes} {name}"
  else
    let whole := twoPower (10 * unit)
    s!"{fixedPoint (placesFor counted whole) counted whole} {name}"

end PrimeReasoner
