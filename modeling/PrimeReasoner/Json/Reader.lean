import PrimeReasoner.Json.Value
import PrimeReasoner.Number.Numeral

/-!
# Reading JSON

`Json.read` reads a text that holds exactly one value. If it does not, the answer is the position of
the character at which that became clear:

* where a value, a field name, a colon, a comma or the end of the text was due, that position;
* for a text that is not closed, the position of its opening quote;
* for a bad escape, the position of its backslash, or of its letter `u`;
* for a control character inside a text, its own position.

Besides numbers in the usual form, `NaN`, `Infinity` and `-Infinity` are accepted. A text may also be too
much to read: values may be nested only so deep, and an integer has at most as many digits as any other.
-/

namespace PrimeReasoner.Json

/-- A position in a text: how many characters precede it, and those that follow. -/
structure Position where
  /-- The characters before. -/
  offset : Nat
  /-- The text that follows. -/
  rest : List Char

/-- Why a text cannot be read. -/
inductive ReadFault where
  /-- It is not a value; that shows at the given position. -/
  | malformed (offset : Nat)
  /-- It is nested too deep, or has too long a number. -/
  | excessive
deriving DecidableEq, Repr

/-- The result of reading something: the fault, or what was read and where it ends. -/
abbrev Reading (α : Type) := Except ReadFault (α × Position)

namespace Position

/-- The position some characters on. -/
def advance (position : Position) (count : Nat) : Position :=
  ⟨position.offset + count, position.rest.drop count⟩

/-- Is the character skipped between values? -/
def isSpace (c : Char) : Bool := c == ' ' || c == '\t' || c == '\n' || c == '\r'

/-- The position behind blanks. -/
def skip (position : Position) : Position :=
  position.advance (position.rest.takeWhile isSpace).length

end Position

/-- The number of four hexadecimal digits. -/
def unit? (a b c d : Char) : Option Nat := do
  let a ← Text.digit? 16 a
  let b ← Text.digit? 16 b
  let c ← Text.digit? 16 c
  let d ← Text.digit? 16 d
  return ((a * 16 + b) * 16 + c) * 16 + d

/-- The character of a one-letter escape. -/
def unescape? : Char → Option Char
  | '"' => some '"'
  | '\\' => some '\\'
  | '/' => some '/'
  | 'b' => some '\x08'
  | 'f' => some '\x0c'
  | 'n' => some '\n'
  | 'r' => some '\r'
  | 't' => some '\t'
  | _ => none

/-- Is the code the first half of a surrogate pair? -/
def isHighHalf (unit : Nat) : Bool := 0xD800 ≤ unit && unit ≤ 0xDBFF

/-- Is the code the second half of a surrogate pair? -/
def isLowHalf (unit : Nat) : Bool := 0xDC00 ≤ unit && unit ≤ 0xDFFF

/-- Is the code half of a surrogate pair? -/
def isHalf (code : Nat) : Bool := isHighHalf code || isLowHalf code

/-- What codes stand for. -/
def Word.ofCodes (codes : List Nat) : Word :=
  if codes.any isHalf then .torn codes else .text (String.ofList (codes.map Char.ofNat))

/-- Reads the rest of a text whose opening quote stands at `start`, behind the reversed codes
`done`. -/
def readString (start : Nat) (done : List Nat) (offset : Nat) : List Char → Reading Word
  | [] => .error (.malformed start)
  | '"' :: rest => .ok (Word.ofCodes done.reverse, ⟨offset + 1, rest⟩)
  | ['\\'] => .error (.malformed start)
  | '\\' :: 'u' :: a :: b :: c :: d :: e :: rest =>
    match unit? a b c d with
    | none => .error (.malformed (offset + 1))
    | some unit =>
      match isHighHalf unit, e, rest with
      | true, '\\', 'u' :: a :: b :: c :: d :: f :: more =>
        match unit? a b c d with
        | none => .error (.malformed (offset + 7))
        | some second =>
          if isLowHalf second then
            let code := 0x10000 + (unit - 0xD800) * 0x400 + (second - 0xDC00)
            readString start (code :: done) (offset + 12) (f :: more)
          else
            readString start (unit :: done) (offset + 6)
              ('\\' :: 'u' :: a :: b :: c :: d :: f :: more)
      | _, e, rest => readString start (unit :: done) (offset + 6) (e :: rest)
  | '\\' :: 'u' :: _ => .error (.malformed (offset + 1))
  | '\\' :: letter :: rest =>
    match unescape? letter with
    | some c => readString start (c.toNat :: done) (offset + 2) rest
    | none => .error (.malformed offset)
  | c :: rest =>
    if c.toNat < 0x20 then .error (.malformed offset)
    else readString start (c.toNat :: done) (offset + 1) rest
termination_by s => s.length

/-- The number of characters of the number that the text starts with. -/
def numberLength? (s : List Char) : Option Nat :=
  let signLength := if s.head? == some '-' then 1 else 0
  let digits (s : List Char) : Nat := (s.takeWhile Text.isDigit).length
  let body := s.drop signLength
  let wholeLength := if body.head? == some '0' then 1 else digits body
  if wholeLength = 0 then none
  else
    let afterWhole := body.drop wholeLength
    let fractionLength :=
      match afterWhole with
      | '.' :: rest => if digits rest = 0 then 0 else digits rest + 1
      | _ => 0
    let afterFraction := afterWhole.drop fractionLength
    let exponentLength :=
      match afterFraction with
      | e :: rest =>
        if e == 'e' || e == 'E' then
          let signed := match rest with
            | '+' :: rest | '-' :: rest => (1, digits rest)
            | rest => (0, digits rest)
          if signed.2 = 0 then 0 else 1 + signed.1 + signed.2
        else 0
      | [] => 0
    some (signLength + wholeLength + fractionLength + exponentLength)

/-- Words that stand for values. -/
def literals : List (String × Json) := [
  ("null", .null), ("true", .bool true), ("false", .bool false), ("NaN", .number "NaN"),
  ("Infinity", .number "Infinity"), ("-Infinity", .number "-Infinity")]

/-- Is the number an integer of too many digits? -/
def isExcessive (text : List Char) : Bool :=
  let digits := Numeral.unsigned text
  Numeral.maxDigits < digits.length && digits.all Text.isDigit

/-- Reads a word or a number. -/
def readAtom (position : Position) : Reading Json :=
  match literals.find? fun entry => entry.1.toList.isPrefixOf position.rest with
  | some (word, value) => .ok (value, position.advance word.length)
  | none =>
    match numberLength? position.rest with
    | some length =>
      let text := position.rest.take length
      if isExcessive text then .error .excessive
      else .ok (.number (String.ofList text), position.advance length)
    | none => .error (.malformed position.offset)

mutual

/-- Reads a value that may be nested `depth` deep. -/
def readValue (fuel depth : Nat) (position : Position) : Reading Json :=
  match fuel with
  | 0 => .error .excessive
  | fuel + 1 =>
    match position.rest with
    | '"' :: rest =>
      match readString position.offset [] (position.offset + 1) rest with
      | .ok (text, next) => .ok (.string text, next)
      | .error fault => .error fault
    | '\x7b' :: _ =>
      if depth = 0 then .error .excessive
      else
        let first := (position.advance 1).skip
        match first.rest with
        | '\x7d' :: _ => .ok (.object [], first.advance 1)
        | _ => readFields fuel (depth - 1) [] first
    | '[' :: _ =>
      if depth = 0 then .error .excessive
      else
        let first := (position.advance 1).skip
        match first.rest with
        | ']' :: _ => .ok (.array [], first.advance 1)
        | _ => readItems fuel (depth - 1) [] first
    | _ => readAtom position
termination_by structural fuel

/-- Reads the fields of an object, of which there is at least one more. -/
def readFields (fuel depth : Nat) (fields : List (Word × Json)) (position : Position) :
    Reading Json :=
  match fuel with
  | 0 => .error .excessive
  | fuel + 1 =>
    match position.rest with
    | '"' :: rest =>
      match readString position.offset [] (position.offset + 1) rest with
      | .error fault => .error fault
      | .ok (name, next) =>
        let colon := next.skip
        match colon.rest with
        | ':' :: _ =>
          match readValue fuel depth (colon.advance 1).skip with
          | .error fault => .error fault
          | .ok (value, next) =>
            let next := next.skip
            let fields := (name, value) :: fields
            match next.rest with
            | '\x7d' :: _ => .ok (.object fields.reverse, next.advance 1)
            | ',' :: _ => readFields fuel depth fields (next.advance 1).skip
            | _ => .error (.malformed next.offset)
        | _ => .error (.malformed colon.offset)
    | _ => .error (.malformed position.offset)
termination_by structural fuel

/-- Reads the items of a list, of which there is at least one more. -/
def readItems (fuel depth : Nat) (items : List Json) (position : Position) : Reading Json :=
  match fuel with
  | 0 => .error .excessive
  | fuel + 1 =>
    match readValue fuel depth position with
    | .error fault => .error fault
    | .ok (item, next) =>
      let next := next.skip
      let items := item :: items
      match next.rest with
      | ']' :: _ => .ok (.array items.reverse, next.advance 1)
      | ',' :: _ => readItems fuel depth items (next.advance 1).skip
      | _ => .error (.malformed next.offset)
termination_by structural fuel

end

/-- Reads a text that holds exactly one value, in which values may be nested `depth` deep. -/
def read (depth : Nat) (text : List Char) : Except ReadFault Json :=
  let start : Position := ⟨0, text⟩
  match readValue (2 * text.length + 2) depth start.skip with
  | .error fault => .error fault
  | .ok (value, next) =>
    let next := next.skip
    if next.rest.isEmpty then .ok value else .error (.malformed next.offset)

end PrimeReasoner.Json
