import PrimeReasoner.Number.Double
import PrimeReasoner.Text.Blank
import PrimeReasoner.Text.Digit

/-!
# Numbers as people write them

Numbers in arguments and in files are written with some freedom: blanks around them, a sign in front,
digits of any script, and single underscores between digits.

* `Numeral.integer?` reads an integer in a base of at most sixteen. Behind `0b`, `0o` or `0x` the
  digits may follow, if that is the mark of the base. A decimal integer has at most 4300 digits.
* `Numeral.double?` reads a number with a point or an exponent, and the words for special values.
-/

namespace PrimeReasoner.Numeral

/-- Is the character dropped at the ends of a number? White space is, the separators among the
controls apart. -/
def isPadding (c : Char) : Bool := Text.isBlank c && !(0x1C ≤ c.toNat && c.toNat ≤ 0x1F)

/-- The text without padding at either end. -/
def unpadded (s : List Char) : List Char :=
  ((s.dropWhile isPadding).reverse.dropWhile isPadding).reverse

/-- Cuts off a sign: whether it is a minus, and what follows. -/
def sign : List Char → Bool × List Char
  | '-' :: rest => (true, rest)
  | '+' :: rest => (false, rest)
  | s => (false, s)

/-- The text without a sign in front. -/
def unsigned (s : List Char) : List Char := (sign s).2

/-- Gives a number its sign. -/
def signed (negative : Bool) (n : Nat) : Int := if negative then -n else n

/-- The greatest number of digits of a decimal integer. -/
def maxDigits : Nat := 4300

/-- The letter that marks a base, behind a zero. -/
def baseMark? : Nat → Option Char
  | 2 => some 'b'
  | 8 => some 'o'
  | 16 => some 'x'
  | _ => none

/-- The value of a digit of any script in a base of at most sixteen. -/
def digit? (base : Nat) (c : Char) : Option Nat :=
  ((Text.digit? 16 c).or (Text.numeral? c)).filter (· < base)

/-- The text without the mark of the base and an underscore behind it. -/
def unmarked (base : Nat) : List Char → List Char
  | '0' :: mark :: rest =>
    if baseMark? base == some mark.toLower then
      match rest with
      | '_' :: rest => rest
      | rest => rest
    else '0' :: mark :: rest
  | s => s

/-- The values of digits between which single underscores may stand. -/
def digits? (base : Nat) : List Char → Option (List Nat)
  | [] => none
  | [c] => (digit? base c).map fun n => [n]
  | c :: '_' :: rest => do
    let first ← digit? base c
    let others ← digits? base rest
    return first :: others
  | c :: rest => do
    let first ← digit? base c
    let others ← digits? base rest
    return first :: others

/-- Reads an integer in a base of at most sixteen. -/
def integer? (base : Nat) (s : List Char) : Option Int :=
  let (negative, rest) := sign (unpadded s)
  match digits? base (unmarked base rest) with
  | some digits =>
    if base = 10 && maxDigits < digits.length then none
    else some (signed negative (digits.foldl (base * · + ·) 0))
  | none => none

/-- Reads an exponent, if there is one. -/
def exponent? : List Char → Option Int
  | [] => some 0
  | mark :: rest =>
    if mark == 'e' || mark == 'E' then
      let (negative, digits) := sign rest
      (Text.natural? 10 digits).map (signed negative)
    else none

/-- Reads digits with at most one point, and possibly an exponent. -/
def decimal? (negative : Bool) (s : List Char) : Option Double :=
  let whole := s.takeWhile Text.isDigit
  let (fraction, rest) := match s.dropWhile Text.isDigit with
    | '.' :: rest => (rest.takeWhile Text.isDigit, rest.dropWhile Text.isDigit)
    | rest => ([], rest)
  match Text.natural? 10 (whole ++ fraction), exponent? rest with
  | some n, some power => some (Double.ofDecimal negative n (power - fraction.length))
  | _, _ => none

/-- The digit of the Latin script for a digit of any script. -/
def latinDigit (c : Char) : Char :=
  match Text.numeral? c with
  | some value => Char.ofNat ('0'.toNat + value)
  | none => c

/-- Reads a number with a point or an exponent, or the word for a special value. -/
def double? (s : List Char) : Option Double :=
  let (negative, rest) := sign ((unpadded s).map latinDigit)
  let word := String.ofList (rest.map Char.toLower)
  if word = "inf" || word = "infinity" then some (.infinite negative)
  else if word = "nan" then some .undefined
  else decimal? negative rest

end PrimeReasoner.Numeral
