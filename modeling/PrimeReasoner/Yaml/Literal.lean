import PrimeReasoner.Text.Digit
import PrimeReasoner.Yaml.Plain

/-!
# Block scalars

A bar or an angle introduces a scalar that takes up the following lines, as long as they are indented.
Behind a bar the lines stand as they are; behind an angle they are joined, unless one of them starts
with a blank. A sign says what becomes of the line ends at the end, and a digit how deep the lines are
indented.

* `BlockHeader` is what stands in the first line.
* `Cursor.blockScalar?` reads a block scalar.
-/

namespace PrimeReasoner.Yaml

/-- What becomes of the line ends at the end of a block scalar. -/
inductive Chomping where
  /-- All are dropped. -/
  | strip
  /-- One is kept. -/
  | clip
  /-- All are kept. -/
  | keep
deriving DecidableEq, Repr

/-- The first line of a block scalar. -/
structure BlockHeader where
  /-- What becomes of the line ends at the end. -/
  chomping : Chomping := .clip
  /-- How much deeper the lines are indented than what surrounds them, if that is given. -/
  increment : Option Nat := none
deriving DecidableEq, Repr

/-- The sign of a block scalar. -/
def chomping? : Char → Option Chomping
  | '+' => some .keep
  | '-' => some .strip
  | _ => none

/-- Reads the sign, if there is one. -/
def chompingAt (cursor : Cursor) : Chomping × Cursor :=
  match cursor.rest.head?.bind chomping? with
  | some chomping => (chomping, cursor.advance)
  | none => (.clip, cursor)

/-- Reads the digit, if there is one; it must not be zero. -/
def incrementAt? (cursor : Cursor) : Option (Option Nat × Cursor) :=
  match cursor.rest.head?.bind (Text.digit? 10) with
  | some 0 => none
  | some n => some (some n, cursor.advance)
  | none => some (none, cursor)

/-- Reads the sign and the digit, in either order. -/
def blockHeader? (cursor : Cursor) : Option (BlockHeader × Cursor) := do
  let (chomping, next) := chompingAt cursor
  let (increment, next) ← incrementAt? next
  let (chomping, next) :=
    if (cursor.rest.head?.bind chomping?).isNone && increment.isSome then chompingAt next
    else (chomping, next)
  if atBlank next.rest then some ({ chomping, increment }, next) else none

/-- Moves over empty lines, behind the reversed texts `done` of their ends: what the line ends stand for,
the greatest column reached by spaces, and the position behind them. -/
def blankLines (done : List Char) (deepest : Nat) (cursor : Cursor) :
    List Char → List Char × Nat × Cursor
  | [] => (done.reverse, deepest, { cursor with rest := [] })
  | c :: rest =>
    let next := cursor.pass c rest
    if c == ' ' then blankLines done (max deepest next.column) next rest
    else if isBreak c then blankLines (breakText c :: done) deepest next rest
    else (done.reverse, deepest, { cursor with rest := c :: rest })

/-- Moves over the indentation of a line, up to the given column, and over empty lines before it. -/
def blockBreaks (column : Nat) (done : List Char) (cursor : Cursor) :
    List Char → List Char × Cursor
  | [] => (done.reverse, { cursor with rest := [] })
  | c :: rest =>
    if c == ' ' && cursor.column < column then blockBreaks column done (cursor.pass c rest) rest
    else if isBreak c then blockBreaks column (breakText c :: done) (cursor.pass c rest) rest
    else (done.reverse, { cursor with rest := c :: rest })

/-- Does the text start with a space or a tab? -/
def startsIndented (s : List Char) : Bool := (s.head?.map isSpace).getD false

/-- Reads the lines of a block scalar that are indented to the given column, behind the reversed text
`done` and the empty lines `breaks`: the reversed text without its last line end, that line end, and the
empty lines at the end. -/
def blockLines (folds : Bool) (column : Nat) : (fuel : Nat) → (done breaks : List Char) → Cursor →
    List Char × List Char × List Char × Cursor
  | 0, done, breaks, cursor => (done, [], breaks, cursor)
  | fuel + 1, done, breaks, cursor =>
    let (text, next) := cursor.span (!isBreak ·)
    let done := text.reverse ++ (breaks.reverse ++ done)
    let lineEnd := (next.rest.head?.map breakText).toList
    let next := next.advance
    let (breaks, next) := blockBreaks column [] next next.rest
    if next.column == column && !next.rest.isEmpty then
      let joins := folds && lineEnd == ['\n'] && !startsIndented text && !startsIndented next.rest
      let joint := if joins then (if breaks.isEmpty then [' '] else []) else lineEnd
      blockLines folds column fuel (joint ++ done) breaks next
    else (done, lineEnd, breaks, next)

namespace Cursor

/-- Reads a block scalar whose mark stands at the cursor, inside of a collection that is indented to the
column `indent`. -/
def blockScalar? (folds : Bool) (indent : Int) (cursor : Cursor) : Option (List Char × Cursor) := do
  let (header, next) ← blockHeader? cursor.advance
  let next ← next.endLine?
  let least := (max 1 (indent + 1)).toNat
  let (breaks, column, next) :=
    match header.increment with
    | some increment =>
      let column := least + increment - 1
      let (breaks, next) := blockBreaks column [] next next.rest
      (breaks, column, next)
    | none =>
      let (breaks, deepest, next) := blankLines [] 0 next next.rest
      (breaks, max least deepest, next)
  let (done, lineEnd, breaks, next) :=
    if next.column == column && !next.rest.isEmpty then
      blockLines folds column (next.rest.length + 1) [] breaks next
    else ([], [], breaks, next)
  let tail := match header.chomping with
    | .strip => []
    | .clip => lineEnd
    | .keep => lineEnd ++ breaks
  return (done.reverse ++ tail, next)

end Cursor

end PrimeReasoner.Yaml
