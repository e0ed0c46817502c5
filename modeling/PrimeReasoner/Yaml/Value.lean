import PrimeReasoner.Number.Numeral
import PrimeReasoner.Setting
import PrimeReasoner.Yaml.Kind

/-!
# Values of scalars

What a scalar of a given kind stands for. A scalar whose form shows its kind nearly always has a value;
one whose kind is named by a tag need not.

* `integer?` and `double?` read numbers, whose underscores are dropped first.
* `timestamp?` reads a day or a moment, which must exist.
* `bytes?` reads raw bytes, six bits to a character.
* `scalarValue?` reads a scalar of any kind.
-/

namespace PrimeReasoner.Yaml

open Numeral (sign signed)

/-- A number without its underscores, if anything is left of it. -/
def compact? (s : List Char) : Option (List Char) :=
  let s := s.filter (· != '_')
  if s.isEmpty then none else some s

/-- An integer in base sixty. -/
def sexagesimalInteger? (s : List Char) : Option Int :=
  (colonPieces s).foldlM (fun total place => (Numeral.integer? 10 place).map (60 * total + ·)) 0

/-- An integer without its sign. -/
def magnitude? : List Char → Option Int
  | [] => none
  | ['0'] => some 0
  | '0' :: 'b' :: rest => Numeral.integer? 2 rest
  | '0' :: 'x' :: rest => Numeral.integer? 16 rest
  | '0' :: rest => Numeral.integer? 8 ('0' :: rest)
  | s => if s.contains ':' then sexagesimalInteger? s else Numeral.integer? 10 s

/-- Reads an integer. -/
def integer? (s : List Char) : Option Int := do
  let (negative, rest) := sign (← compact? s)
  let magnitude ← magnitude? rest
  return if negative then -magnitude else magnitude

/-- Adds up the places of a number in base sixty from the last one on, each with the power of sixty that
it counts; the powers must be within the range of numbers. -/
def sexagesimalSum? (total : Double) (power : Nat) : List (List Char) → Option Double
  | [] => some total
  | place :: places => do
    let digit ← Numeral.double? place
    let factor := Double.ofInt power
    if factor.isFinite then sexagesimalSum? (total.add (digit.mul factor)) (power * 60) places
    else none

/-- A number with a point without its sign. -/
def doubleMagnitude? (s : List Char) : Option Double :=
  if s == ['.', 'i', 'n', 'f'] then some (.infinite false)
  else if s == ['.', 'n', 'a', 'n'] then some .undefined
  else if s.contains ':' then sexagesimalSum? (.zero false) 1 (colonPieces s).reverse
  else Numeral.double? s

/-- Reads a number with a point. -/
def double? (s : List Char) : Option Double := do
  let (negative, rest) := sign ((← compact? s).map Char.toLower)
  let magnitude ← doubleMagnitude? rest
  return if negative then magnitude.neg else magnitude

/-- Reads a truth value. -/
def bool? (s : List Char) : Option Bool :=
  let word := String.ofList (s.map Char.toLower)
  if word = "yes" || word = "true" || word = "on" then some true
  else if word = "no" || word = "false" || word = "off" then some false
  else none

/-! ## Days and moments -/

/-- The number of some digits; none stand for zero. -/
def count (digits : List Char) : Nat := (Text.natural? 10 digits).getD 0

/-- The minutes by which a clock is ahead. -/
def zoneMinutes : Bool × List Char × List Char → Int
  | (behind, hours, minutes) => signed behind (60 * count hours + count minutes)

/-- The day or moment that is written, if there is such a one. -/
def Stamp.value? (stamp : Stamp) : Option Scalar :=
  let date : Date := ⟨count stamp.year, count stamp.month, count stamp.day⟩
  match stamp.clock with
  | none => if date.isValid then some (.date date) else none
  | some (hour, minute, second) =>
    let micro := stamp.fraction.take 6
    let micro := count (micro ++ List.replicate (6 - micro.length) '0')
    let moment : Moment := {
      date, hour := count hour, minute := count minute, second := count second, micro
      offset := stamp.zone.map zoneMinutes }
    if moment.isValid then some (.moment moment) else none

/-- Reads a day or a moment. -/
def timestamp? (s : List Char) : Option Scalar := (stamp? (Text.withoutFinalFeed s)).bind Stamp.value?

/-! ## Raw bytes -/

/-- The six bits that a character stands for. -/
def sixBits? (c : Char) : Option Nat :=
  if 'A' ≤ c && c ≤ 'Z' then some (c.toNat - 'A'.toNat)
  else if 'a' ≤ c && c ≤ 'z' then some (c.toNat - 'a'.toNat + 26)
  else if '0' ≤ c && c ≤ '9' then some (c.toNat - '0'.toNat + 52)
  else if c == '+' then some 62
  else if c == '/' then some 63
  else none

/-- Reads bytes, behind the reversed bytes `done`: `place` characters of a group of four have been read,
with `left` the bits that are not yet part of a byte, and `pads` equals signs since. A group is complete
with four characters, or is filled up with equals signs, behind which nothing counts. All other
characters are skipped. -/
def bytesFrom (done : List Nat) (place left pads : Nat) : List Char → Option (List Nat)
  | [] => if place = 0 then some done.reverse else none
  | '=' :: rest =>
    if 2 ≤ place then
      if 4 ≤ place + pads + 1 then some done.reverse else bytesFrom done place left (pads + 1) rest
    else bytesFrom done place left pads rest
  | c :: rest =>
    match sixBits? c, place with
    | none, _ => bytesFrom done place left pads rest
    | some bits, 0 => bytesFrom done 1 bits 0 rest
    | some bits, 1 => bytesFrom ((left * 4 + bits / 16) :: done) 2 (bits % 16) 0 rest
    | some bits, 2 => bytesFrom ((left * 16 + bits / 4) :: done) 3 (bits % 4) 0 rest
    | some bits, _ => bytesFrom ((left * 64 + bits) :: done) 0 0 0 rest

/-- Reads raw bytes. -/
def bytes? (s : List Char) : Option (List Nat) :=
  if s.all fun c => c.toNat < 0x80 then bytesFrom [] 0 0 0 s else none

/-! ## All kinds -/

/-- The value of a scalar of the given kind. -/
def scalarValue? (kind : Kind) (text : String) : Option Scalar :=
  let s := text.toList
  match kind with
  | .null => some .null
  | .bool => (bool? s).map .bool
  | .int => (integer? s).map .int
  | .float => (double? s).map .float
  | .binary => (bytes? s).map .bytes
  | .timestamp => timestamp? s
  | .text => some (.text text)
  | _ => none

end PrimeReasoner.Yaml
