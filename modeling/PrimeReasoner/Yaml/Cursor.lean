import PrimeReasoner.Text.CharSet

/-!
# Moving through a document

The structure of a document is given by the columns in which its parts stand, so a position knows
its line and column besides the text that follows.

* `Cursor` is a position; `Cursor.advance` moves it on, and a line end takes it to a new line.
* `Cursor.skip` moves over spaces, comments and line ends.
* `Cursor.atMarker` recognises the marks that begin or end a document.
* `isAllowed` says which characters a document may hold at all.
-/

namespace PrimeReasoner.Yaml

/-- A position in a document. -/
structure Cursor where
  /-- What follows. -/
  rest : List Char
  /-- The number of characters before it. -/
  index : Nat := 0
  /-- The number of the line. -/
  line : Nat := 0
  /-- The number of characters before it in its line. -/
  column : Nat := 0
deriving DecidableEq, Repr

/-- The characters that a document may not hold: most controls and the noncharacters at the end of
the basic plane. -/
def forbidden : Text.CharSet :=
  [⟨0x0, 0x8⟩, ⟨0xB, 0xC⟩, ⟨0xE, 0x1F⟩, ⟨0x7F, 0x84⟩, ⟨0x86, 0x9F⟩, ⟨0xFFFE, 0xFFFF⟩]

/-- May a document hold the character? -/
def isAllowed (c : Char) : Bool := !forbidden.contains c

/-- The byte order mark, which takes no column. -/
def byteOrderMark : Char := '\uFEFF'

/-- Does the character end a line? -/
def isBreak (c : Char) : Bool := c == '\n' || c == '\u0085' || c == '\u2028' || c == '\u2029'

/-- What a line end stands for inside of a scalar: the separators for lines and paragraphs stand for
themselves, all others for a line feed. -/
def breakText (c : Char) : Char := if c == '\u0085' then '\n' else c

/-- Is the character a space or a tab? -/
def isSpace (c : Char) : Bool := c == ' ' || c == '\t'

/-- Does the text end or go on with a space, a tab or a line end? -/
def atGap : List Char → Bool
  | [] => true
  | c :: _ => isSpace c || isBreak c

/-- Does the text end or go on with a space or a line end? -/
def atBlank : List Char → Bool
  | [] => true
  | c :: _ => c == ' ' || isBreak c

/-- Does the text end or go on with a line end? -/
def atLineEnd : List Char → Bool
  | [] => true
  | c :: _ => isBreak c

/-- Does the text start with three dashes or dots and a gap? -/
def startsMarker : List Char → Bool
  | '-' :: '-' :: '-' :: rest | '.' :: '.' :: '.' :: rest => atGap rest
  | _ => false

namespace Cursor

/-- The position behind the given character, before the given rest. -/
def pass (cursor : Cursor) (c : Char) (rest : List Char) : Cursor :=
  if isBreak c then { rest, index := cursor.index + 1, line := cursor.line + 1 }
  else { rest, index := cursor.index + 1, line := cursor.line
         column := if c == byteOrderMark then cursor.column else cursor.column + 1 }

/-- The position one character on. -/
def advance (cursor : Cursor) : Cursor :=
  match cursor.rest with
  | [] => cursor
  | c :: rest => cursor.pass c rest

/-- The position some characters on. -/
def advanceBy (cursor : Cursor) : Nat → Cursor
  | 0 => cursor
  | count + 1 => cursor.advance.advanceBy count

/-- The characters of a class at the cursor, and the position behind them. -/
def span (cursor : Cursor) (p : Char → Bool) : List Char × Cursor :=
  let run := cursor.rest.takeWhile p
  (run, cursor.advanceBy run.length)

/-- The position behind the characters of a class. -/
def skipWhile (cursor : Cursor) (p : Char → Bool) : Cursor := (cursor.span p).2

/-- Moves over spaces, line ends and, from a number sign to the end of the line, comments; `fresh` says
whether a line end has been passed. -/
def skipFrom (comment fresh : Bool) (cursor : Cursor) : List Char → Bool × Cursor
  | [] => (fresh, { cursor with rest := [] })
  | c :: rest =>
    let next := cursor.pass c rest
    if isBreak c then skipFrom false true next rest
    else if comment || c == ' ' then skipFrom comment fresh next rest
    else if c == '#' then skipFrom true fresh next rest
    else (fresh, { cursor with rest := c :: rest })

/-- The position behind spaces, comments and line ends, and whether a line end was among them. -/
def skip (cursor : Cursor) : Bool × Cursor := skipFrom false false cursor cursor.rest

/-- The position behind the spaces and the comment at the end of a line, and behind the line end;
nothing if something else stands there. -/
def endLine? (cursor : Cursor) : Option Cursor :=
  let next := cursor.skipWhile (· == ' ')
  let next := if next.rest.head? == some '#' then next.skipWhile (!isBreak ·) else next
  if atLineEnd next.rest then some next.advance else none

/-- Does a line with the given mark start here? -/
def atMarker (mark : String) (cursor : Cursor) : Bool :=
  cursor.column == 0 && mark.toList.isPrefixOf cursor.rest && startsMarker cursor.rest

end Cursor

end PrimeReasoner.Yaml
