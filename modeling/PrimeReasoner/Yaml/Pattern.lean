import PrimeReasoner.Text.Digit
import PrimeReasoner.Yaml.Cursor

/-!
# Forms of plain scalars

A scalar that is given no kind has one by its form. Words are recognised in small letters, with a
capital, and in capitals.

* `isNull` and `isBool`: the words for nothing and for truth values.
* `isInteger`: decimal, binary behind `0b`, hexadecimal behind `0x`, octal behind `0`, and base sixty
  with colons; underscores may stand between the digits.
* `isFloat`: digits with a point and possibly an exponent with a sign, base sixty with a point at the
  end, and the words for infinity and for no number.
* `isTimestamp`: a day, or a day and a time.
-/

namespace PrimeReasoner.Yaml

open Text (isDigit)

/-- The words for nothing. -/
def nullWords : List String := ["", "~", "null", "Null", "NULL"]

/-- The words for truth values. -/
def boolWords : List String :=
  ["yes", "Yes", "YES", "no", "No", "NO", "true", "True", "TRUE", "false", "False", "FALSE", "on", "On",
    "ON", "off", "Off", "OFF"]

/-- Does the scalar stand for nothing? -/
def isNull (s : List Char) : Bool := nullWords.contains (String.ofList s)

/-- Does the scalar stand for a truth value? -/
def isBool (s : List Char) : Bool := boolWords.contains (String.ofList s)

/-- The text without a sign in front. -/
def unsigned : List Char → List Char
  | '-' :: rest | '+' :: rest => rest
  | s => s

/-- Is the character a digit or an underscore? -/
def isPlace (c : Char) : Bool := isDigit c || c == '_'

/-- Is this at least one digit in the given base, or underscore? -/
def arePlaces (base : Nat) (s : List Char) : Bool :=
  !s.isEmpty && s.all fun c => c == '_' || (Text.digit? base c).isSome

/-- Does the text start with a digit? -/
def startsWithDigit (s : List Char) : Bool := (s.head?.map isDigit).getD false

/-- Does the text start with a digit from one to nine? -/
def startsPositive (s : List Char) : Bool := startsWithDigit s && s.head? != some '0'

/-- Is this a place of a number in base sixty: one digit, or two of which the first is below six? -/
def isSixtieth : List Char → Bool
  | [c] => isDigit c
  | [c, d] => isDigit c && c ≤ '5' && isDigit d
  | _ => false

/-- The pieces between the colons of a text. -/
def colonPieces (s : List Char) : List (List Char) :=
  s.foldr (fun c pieces =>
    if c == ':' then [] :: pieces
    else match pieces with
      | [] => [[c]]
      | piece :: pieces => (c :: piece) :: pieces) [[]]

/-- Are these the places of a number in base sixty, of which there are at least two? -/
def isSexagesimal (s : List Char) : Bool :=
  match colonPieces s with
  | first :: second :: more =>
    startsWithDigit first && first.all isPlace && (second :: more).all isSixtieth
  | _ => false

/-- Does the scalar stand for an integer? -/
def isInteger (s : List Char) : Bool :=
  match unsigned s with
  | ['0'] => true
  | '0' :: 'b' :: rest => arePlaces 2 rest
  | '0' :: 'x' :: rest => arePlaces 16 rest
  | '0' :: rest => arePlaces 8 rest
  | s => startsPositive s && (arePlaces 10 s || isSexagesimal s)

/-- Is this an exponent with a sign, or nothing? -/
def isExponent : List Char → Bool
  | [] => true
  | mark :: sign :: digits =>
    (mark == 'e' || mark == 'E') && (sign == '+' || sign == '-') && !digits.isEmpty &&
      digits.all isDigit
  | _ => false

/-- Does the scalar stand for a number with a point? -/
def isFloat (s : List Char) : Bool :=
  let body := unsigned s
  let whole := body.takeWhile (· != '.')
  match body.dropWhile (· != '.') with
  | '.' :: rest =>
    let fraction := rest.takeWhile isPlace
    let exponent := rest.dropWhile isPlace
    if whole.isEmpty then
      (startsWithDigit rest && isExponent exponent && s.head? == some '.') ||
        ["inf", "Inf", "INF"].contains (String.ofList rest) ||
        (["nan", "NaN", "NAN"].contains (String.ofList rest) && s.head? == some '.')
    else if startsWithDigit whole && whole.all isPlace then isExponent exponent
    else isSexagesimal whole && fraction == rest
  | _ => false

/-! ## Days and times -/

/-- Cuts off between `least` and `most` digits, as many as there are. -/
def digitsAt? (least most : Nat) (s : List Char) : Option (List Char × List Char) :=
  let digits := (s.take most).takeWhile isDigit
  if digits.length < least then none else some (digits, s.drop digits.length)

/-- The parts of a day and possibly a time, as they are written. -/
structure Stamp where
  /-- The year, in four digits. -/
  year : List Char
  /-- The month. -/
  month : List Char
  /-- The day. -/
  day : List Char
  /-- Hour, minute and second. -/
  clock : Option (List Char × List Char × List Char) := none
  /-- The part of a second. -/
  fraction : List Char := []
  /-- Whether the clock is behind, by how many hours and how many minutes. -/
  zone : Option (Bool × List Char × List Char) := none

/-- Reads the offset of a clock: the letter `Z`, or hours with a sign and possibly minutes. -/
def zone? (s : List Char) : Option (Option (Bool × List Char × List Char)) :=
  match s.dropWhile isSpace with
  | [] => if s.isEmpty then some none else none
  | ['Z'] => some (some (false, [], []))
  | sign :: rest =>
    if sign == '+' || sign == '-' then do
      let (hours, rest) ← digitsAt? 1 2 rest
      match rest with
      | [] => some (some (sign == '-', hours, []))
      | ':' :: rest =>
        let (minutes, rest) ← digitsAt? 2 2 rest
        if rest.isEmpty then some (some (sign == '-', hours, minutes)) else none
      | _ => none
    else none

/-- Cuts off the given mark and two digits. -/
def twoBehind? (mark : Char) : List Char → Option (List Char × List Char)
  | c :: rest => if c == mark then digitsAt? 2 2 rest else none
  | [] => none

/-- Reads a time behind a day: behind the letter `T` or blanks. -/
def time? (s : List Char) : Option (List Char) :=
  match s with
  | 'T' :: rest | 't' :: rest => some rest
  | c :: _ => if isSpace c then some (s.dropWhile isSpace) else none
  | [] => none

/-- Reads a day, and a time if one follows. -/
def stamp? (s : List Char) : Option Stamp := do
  let (year, rest) ← digitsAt? 4 4 s
  let rest ← if rest.head? == some '-' then some (rest.drop 1) else none
  let (month, rest) ← digitsAt? 1 2 rest
  let rest ← if rest.head? == some '-' then some (rest.drop 1) else none
  let (day, rest) ← digitsAt? 1 2 rest
  if rest.isEmpty then some { year, month, day }
  else
    let rest ← time? rest
    let (hour, rest) ← digitsAt? 1 2 rest
    let (minute, rest) ← twoBehind? ':' rest
    let (second, rest) ← twoBehind? ':' rest
    let (fraction, rest) := match rest with
      | '.' :: rest => (rest.takeWhile isDigit, rest.dropWhile isDigit)
      | rest => ([], rest)
    let zone ← zone? rest
    some { year, month, day, clock := some (hour, minute, second), fraction, zone }

/-- Does the scalar stand for a day or a time? A day alone has two digits for month and day. -/
def isTimestamp (s : List Char) : Bool :=
  match stamp? s with
  | some stamp => stamp.clock.isSome || (stamp.month.length == 2 && stamp.day.length == 2)
  | none => false

end PrimeReasoner.Yaml
