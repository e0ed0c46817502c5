import PrimeReasoner.Json.Reader

/-!
# The characters of a JSON text

A JSON text comes as bytes, in units of one, two or four of them. Which of these it is shows in the
zeros among the first bytes, as the first characters of a value are ASCII.

* `Encoding.detect` finds the units; `Encoding.decode?` puts them together to characters.
* `decoded?` gives the characters of a text that comes as the bytes of the given one.
-/

namespace PrimeReasoner.Json

/-- How characters are written as bytes. -/
inductive Encoding where
  /-- In units of one byte. -/
  | octets
  /-- In units of two bytes, the greater one first or last. -/
  | pairs (greaterFirst : Bool)
  /-- In units of four bytes, the greatest one first or last. -/
  | quads (greatestFirst : Bool)
deriving DecidableEq, Repr

/-- The encoding that the first bytes show. -/
def Encoding.detect : List Nat → Encoding
  | [a, b] => if a = 0 then .pairs true else if b = 0 then .pairs false else .octets
  | a :: b :: c :: d :: _ =>
    if a = 0 then (if b = 0 then .quads true else .pairs true)
    else if b = 0 then (if c = 0 ∧ d = 0 then .quads false else .pairs false)
    else .octets
  | _ => .octets

/-- The units of two bytes; nothing if a byte is left over. -/
def units2? (greaterFirst : Bool) : List Nat → Option (List Nat)
  | [] => some []
  | a :: b :: rest =>
    let unit := if greaterFirst then a * 256 + b else b * 256 + a
    (units2? greaterFirst rest).map (unit :: ·)
  | _ => none

/-- The units of four bytes; nothing if bytes are left over. -/
def units4? (greatestFirst : Bool) : List Nat → Option (List Nat)
  | [] => some []
  | a :: b :: c :: d :: rest =>
    let unit :=
      if greatestFirst then ((a * 256 + b) * 256 + c) * 256 + d
      else ((d * 256 + c) * 256 + b) * 256 + a
    (units4? greatestFirst rest).map (unit :: ·)
  | _ => none

/-- The character of a code; half of a surrogate pair stands for the replacement character. -/
def charOf? (code : Nat) : Option Char :=
  if 0x10FFFF < code then none
  else if isHalf code then some '\uFFFD'
  else some (Char.ofNat code)

/-- Puts surrogate pairs together. -/
def joinPairs : List Nat → List Nat
  | [] => []
  | [unit] => [unit]
  | a :: b :: rest =>
    if isHighHalf a && isLowHalf b then
      (0x10000 + (a - 0xD800) * 0x400 + (b - 0xDC00)) :: joinPairs rest
    else a :: joinPairs (b :: rest)

/-- The characters of some bytes in units of more than one; nothing if they do not come out even or
stand for no characters. -/
def Encoding.decode? (bytes : List Nat) : Encoding → Option (List Char)
  | .octets => none
  | .pairs greaterFirst => (units2? greaterFirst bytes).bind fun units => (joinPairs units).mapM charOf?
  | .quads greatestFirst => (units4? greatestFirst bytes).bind fun units => units.mapM charOf?

/-- The characters of a JSON text that comes as the bytes of the given one. A byte order mark at its
start is dropped. -/
def decoded? (text : String) : Option (List Char) :=
  let bytes := text.toUTF8.toList.map UInt8.toNat
  match Encoding.detect bytes with
  | .octets =>
    match text.toList with
    | '\uFEFF' :: rest => some rest
    | chars => some chars
  | encoding => encoding.decode? bytes

end PrimeReasoner.Json
