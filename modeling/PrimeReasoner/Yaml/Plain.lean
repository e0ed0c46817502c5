import PrimeReasoner.Yaml.Cursor

/-!
# Scalars without quotes

A scalar without quotes ends at a comment, at a colon with a gap behind it and, inside of brackets, at a
comma or bracket. It may go on in further lines if these are indented. Blanks in a line stand for
themselves; one line end stands for a space, and of several all but the first stand for themselves.

* `startsPlain` says where such a scalar may start.
* `Cursor.plain` reads one, and says whether its last line has ended.
-/

namespace PrimeReasoner.Yaml

/-- Characters with a meaning of their own at the start of a value. -/
def isIndicator (c : Char) : Bool := "-?:,[]\x7b\x7d#&*!|>'\"%@`".toList.contains c

/-- Characters that end a scalar without quotes inside brackets. -/
def isFlowMark (c : Char) : Bool := ",?[]\x7b\x7d".toList.contains c

/-- May a scalar without quotes start here? A dash, and outside of brackets a question mark or a
colon, may start one if no gap follows. -/
def startsPlain (flow : Bool) : List Char → Bool
  | [] => false
  | c :: rest =>
    if isIndicator c then !atGap rest && (c == '-' || (!flow && (c == '?' || c == ':')))
    else !atGap (c :: rest)

/-- Does a colon with this text behind it end a scalar? -/
def endsKey (flow : Bool) (rest : List Char) : Bool :=
  atGap rest || (flow && (rest.head?.map fun c => ",[]\x7b\x7d".toList.contains c).getD false)

/-- The characters of a scalar up to a gap or a mark. -/
def plainRun (flow : Bool) : List Char → List Char
  | [] => []
  | c :: rest =>
    if atGap (c :: rest) || (c == ':' && endsKey flow rest) || (flow && isFlowMark c) then []
    else c :: plainRun flow rest

/-- What line ends inside of a scalar stand for, given the first one and those after it. -/
def folded (first : Char) (others : List Char) : List Char :=
  if breakText first != '\n' then breakText first :: others
  else if others.isEmpty then [' ']
  else others

/-- A gap inside of a scalar without quotes. -/
structure Gap where
  /-- What it stands for; nothing if the scalar cannot go on behind it. -/
  text : List Char
  /-- Has a line ended? -/
  fresh : Bool
  /-- The position behind it. -/
  next : Cursor

/-- Moves over spaces and line ends, behind the reversed texts `done` of line ends; nothing is left of
them if a document begins or ends there. -/
def breaksFrom (done : List Char) (cursor : Cursor) : List Char → Option (List Char) × Cursor
  | [] => (some done.reverse, { cursor with rest := [] })
  | c :: rest =>
    let next := cursor.pass c rest
    if c == ' ' then breaksFrom done next rest
    else if isBreak c then
      if startsMarker rest then (none, next) else breaksFrom (breakText c :: done) next rest
    else (some done.reverse, { cursor with rest := c :: rest })

namespace Cursor

/-- The gap at the cursor. -/
def plainGap (cursor : Cursor) : Gap :=
  let (spaces, next) := cursor.span (· == ' ')
  match next.rest with
  | c :: rest =>
    if isBreak c then
      let next := next.advance
      if startsMarker rest then ⟨[], true, next⟩
      else match breaksFrom [] next rest with
        | (some others, next) => ⟨folded c others, true, next⟩
        | (none, next) => ⟨[], true, next⟩
    else ⟨spaces, false, next⟩
  | [] => ⟨spaces, false, next⟩

/-- Reads the rest of a scalar without quotes, behind the reversed text `done` and the gap after it.
Outside of brackets, a line that goes on with it is indented to the column `least`. -/
def plainFrom (flow : Bool) (least : Int) : (fuel : Nat) → (done gap : List Char) → (fresh : Bool) →
    Cursor → List Char × Bool × Cursor
  | 0, done, _, fresh, cursor => (done.reverse, fresh, cursor)
  | fuel + 1, done, gap, fresh, cursor =>
    let run := plainRun flow cursor.rest
    if run.isEmpty || cursor.rest.head? == some '#' then (done.reverse, fresh, cursor)
    else
      let done := run.reverse ++ (gap.reverse ++ done)
      let gap := (cursor.advanceBy run.length).plainGap
      if gap.text.isEmpty || (!flow && (gap.next.column : Int) < least) then
        (done.reverse, gap.fresh, gap.next)
      else plainFrom flow least fuel done gap.text gap.fresh gap.next

/-- Reads a scalar without quotes: its text, whether its last line has ended, and the position behind
it. -/
def plain (flow : Bool) (least : Int) (cursor : Cursor) : List Char × Bool × Cursor :=
  cursor.plainFrom flow least (cursor.rest.length + 1) [] [] false

end Cursor

end PrimeReasoner.Yaml
