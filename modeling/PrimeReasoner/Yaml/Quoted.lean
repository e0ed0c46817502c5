import PrimeReasoner.Text.Digit
import PrimeReasoner.Yaml.Plain

/-!
# Quoted scalars

Between single quotes only the quote itself is special and is written twice; between double quotes a
backslash introduces an escape. A line end inside counts as in any scalar, and the blanks around it are
dropped.
-/

namespace PrimeReasoner.Yaml

/-- The character of a one-letter escape. -/
def escaped? : Char → Option Char
  | '0' => some '\x00'
  | 'a' => some '\x07'
  | 'b' => some '\x08'
  | 't' => some '\t'
  | '\t' => some '\t'
  | 'n' => some '\n'
  | 'v' => some '\x0b'
  | 'f' => some '\x0c'
  | 'r' => some '\r'
  | 'e' => some '\x1b'
  | ' ' => some ' '
  | '"' => some '"'
  | '/' => some '/'
  | '\\' => some '\\'
  | 'N' => some '\u0085'
  | '_' => some '\u00a0'
  | 'L' => some '\u2028'
  | 'P' => some '\u2029'
  | _ => none

/-- How many digits follow the letter of a numeric escape. -/
def codeWidth? : Char → Option Nat
  | 'x' => some 2
  | 'u' => some 4
  | 'U' => some 8
  | _ => none

/-- The character of a code point; half a surrogate pair stands for the replacement character. -/
def charOfCode? (code : Nat) : Option Char :=
  if 0x10FFFF < code then none
  else if 0xD800 ≤ code && code ≤ 0xDFFF then some '\uFFFD'
  else some (Char.ofNat code)

/-- The character with a code of exactly `width` hexadecimal digits. -/
def codeChar? (width : Nat) (rest : List Char) : Option Char :=
  let digits := rest.take width
  if digits.length < width then none else (Text.natural? 16 digits).bind charOfCode?

/-- Moves over blanks and line ends at the start of a line, behind the reversed texts `done` of line
ends; `fresh` says whether a line starts here. Nothing if a document begins or ends there. -/
def quotedBreaks (done : List Char) (fresh : Bool) (cursor : Cursor) :
    List Char → Option (List Char × Cursor)
  | [] => some (done.reverse, { cursor with rest := [] })
  | c :: rest =>
    if fresh && startsMarker (c :: rest) then none
    else if isSpace c then quotedBreaks done false (cursor.pass c rest) rest
    else if isBreak c then quotedBreaks (breakText c :: done) true (cursor.pass c rest) rest
    else some (done.reverse, { cursor with rest := c :: rest })

namespace Cursor

/-- What the line ends at the cursor stand for inside of quotes, and the position behind them and the
blanks around them. -/
def quotedFold (cursor : Cursor) : Option (List Char × Cursor) :=
  match cursor.rest with
  | first :: rest =>
    (quotedBreaks [] true cursor.advance rest).map fun (others, next) => (folded first others, next)
  | [] => none

/-- Reads an escape whose backslash stands at the cursor. -/
def escape? (cursor : Cursor) : Option (List Char × Cursor) :=
  match cursor.rest with
  | _ :: letter :: rest =>
    match escaped? letter, codeWidth? letter with
    | some c, _ => some ([c], cursor.advanceBy 2)
    | none, some width => (codeChar? width rest).map fun c => ([c], cursor.advanceBy (2 + width))
    | none, none => if isBreak letter then quotedBreaks [] true (cursor.advanceBy 2) rest else none
  | _ => none

/-- Reads the rest of a quoted scalar, behind the reversed text `done`. -/
def quotedFrom (mark : Char) : (fuel : Nat) → (done : List Char) → Cursor → Option (List Char × Cursor)
  | 0, _, _ => none
  | fuel + 1, done, cursor =>
    match cursor.rest with
    | [] => none
    | c :: rest =>
      if c == mark then
        if mark == '\'' && rest.head? == some '\'' then
          quotedFrom mark fuel ('\'' :: done) (cursor.advanceBy 2)
        else some (done.reverse, cursor.advance)
      else if isSpace c || isBreak c then
        let (spaces, next) := cursor.span isSpace
        if (next.rest.head?.map isBreak).getD false then
          match next.quotedFold with
          | some (text, next) => quotedFrom mark fuel (text.reverse ++ done) next
          | none => none
        else quotedFrom mark fuel (spaces.reverse ++ done) next
      else if mark == '"' && c == '\\' then
        match cursor.escape? with
        | some (text, next) => quotedFrom mark fuel (text.reverse ++ done) next
        | none => none
      else quotedFrom mark fuel (c :: done) cursor.advance

/-- Reads a quoted scalar whose opening mark stands at the cursor. -/
def quoted? (mark : Char) (cursor : Cursor) : Option (List Char × Cursor) :=
  cursor.advance.quotedFrom mark (cursor.rest.length + 1) []

end Cursor

end PrimeReasoner.Yaml
