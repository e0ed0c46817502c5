import PrimeReasoner.Yaml.Literal
import PrimeReasoner.Yaml.Quoted
import PrimeReasoner.Yaml.Tag

/-!
# From text to tokens

The tokens of a document are found from left to right. Outside of brackets a token that stands further
to the right than the collection around it may open a block collection, and one that stands further to
the left closes those that it leaves. A key shows itself only by the colon behind it; so every token
that may start a key is remembered until it is clear that no colon follows, and the start of the key is
entered in front of it when the colon comes. A key fits in one line and in 1024 characters.

* `Layout` is what is known at a position: the tokens so far, the columns of the open block
  collections, the keys that may still turn up, and whether a key may start here.
* `Layout.take` takes the token at the cursor; `tokens?` finds all.
-/

namespace PrimeReasoner.Yaml

/-- A token that may turn out to start a key. -/
structure PendingKey where
  /-- How many tokens precede it. -/
  place : Nat
  /-- Must it be a key, because it stands where only keys may stand? -/
  required : Bool
  /-- How many characters precede it. -/
  index : Nat
  /-- The line in which it stands. -/
  line : Nat
  /-- The column in which it stands. -/
  column : Nat
deriving DecidableEq, Repr

/-- What is known at a position of a document. -/
structure Layout where
  /-- The position. -/
  cursor : Cursor
  /-- The tokens so far, the last one first. -/
  tokens : List Token := []
  /-- The number of tokens so far. -/
  count : Nat := 0
  /-- The column of the innermost block collection, or minus one. -/
  indent : Int := -1
  /-- The columns of the block collections around it. -/
  indents : List Int := []
  /-- The keys that may still turn up outside of this pair of brackets and those around it: one place for
  every pair of open brackets, the innermost first, and one for what is outside of all brackets. -/
  pending : List (Option PendingKey) := [none]
  /-- May a key start here? -/
  allowsKey : Bool := true

namespace Layout

/-- Is this inside of brackets? -/
def inFlow (layout : Layout) : Bool := 1 < layout.pending.length

/-- With one more token. -/
def push (layout : Layout) (token : Token) : Layout :=
  { layout with tokens := token :: layout.tokens, count := layout.count + 1 }

/-- With a token in front of the last `behind` ones. -/
def insert (layout : Layout) (behind : Nat) (token : Token) : Layout :=
  { layout with
    tokens := layout.tokens.take behind ++ token :: layout.tokens.drop behind
    count := layout.count + 1 }

/-- At another position. -/
def moveTo (layout : Layout) (cursor : Cursor) : Layout := { layout with cursor }

/-- With a mark of the given number of characters as the next token. -/
def mark (layout : Layout) (length : Nat) (token : Token) : Layout :=
  (layout.push token).moveTo (layout.cursor.advanceBy length)

/-! ## Block collections -/

/-- Closes the block collections whose column is right of the given one. -/
def closeTo (column : Int) (layout : Layout) : (indents : List Int) → Layout
  | [] => layout
  | outer :: indents =>
    if column < layout.indent then
      closeTo column { layout.push .blockEnd with indent := outer, indents } indents
    else layout

/-- Closes the block collections that a token in the given column leaves; inside of brackets columns do
not matter. -/
def unwind (layout : Layout) (column : Int) : Layout :=
  if layout.inFlow then layout else closeTo column layout layout.indents

/-- Enters a block collection in the given column, if that is right of the innermost one; says whether it
was. -/
def enter (layout : Layout) (column : Nat) : Bool × Layout :=
  if layout.indent < column then
    (true, { layout with indent := column, indents := layout.indent :: layout.indents })
  else (false, layout)

/-- Enters a block collection that starts with the next token. -/
def openBlock (layout : Layout) (token : Token) : Layout :=
  match layout.enter layout.cursor.column with
  | (true, layout) => layout.push token
  | (false, layout) => layout

/-! ## Keys -/

/-- The longest key. -/
def maxKeyLength : Nat := 1024

/-- Can the key still turn up at the cursor? -/
def isFresh (cursor : Cursor) (key : PendingKey) : Bool :=
  key.line == cursor.line && cursor.index ≤ key.index + maxKeyLength

/-- Gives up the keys that can no longer turn up; nothing if one of them had to. -/
def dropStale (layout : Layout) : Option Layout := do
  let pending ← layout.pending.mapM fun place =>
    match place with
    | some key =>
      if isFresh layout.cursor key then some (some key)
      else if key.required then none
      else some none
    | none => some none
  return { layout with pending }

/-- Gives up the key of the innermost brackets; nothing if it had to turn up. -/
def dropKey (layout : Layout) : Option Layout :=
  match layout.pending with
  | some key :: outer => if key.required then none else some { layout with pending := none :: outer }
  | _ => some layout

/-- Remembers the next token as one that may start a key. -/
def offerKey (layout : Layout) : Option Layout :=
  if layout.allowsKey then do
    let layout ← layout.dropKey
    let cursor := layout.cursor
    let key := {
      place := layout.count
      required := !layout.inFlow && layout.indent == cursor.column
      index := cursor.index
      line := cursor.line
      column := cursor.column }
    return { layout with pending := some key :: layout.pending.drop 1 }
  else some layout

/-- Says whether a key may start behind the next token. -/
def allowing (layout : Layout) (allowsKey : Bool) : Layout := { layout with allowsKey }

/-! ## Single tokens -/

/-- Takes a directive or a mark of documents, before which all block collections end. -/
def boundary (layout : Layout) : Option Layout :=
  ((layout.unwind (-1)).dropKey).map (·.allowing false)

/-- Takes an opening bracket. -/
def opening (layout : Layout) (token : Token) : Option Layout := do
  let layout ← layout.offerKey
  return { (layout.mark 1 token).allowing true with pending := none :: layout.pending }

/-- Takes a closing bracket. -/
def closing (layout : Layout) (token : Token) : Option Layout := do
  let layout ← layout.dropKey
  match layout.pending with
  | _ :: outer :: more =>
    some { (layout.mark 1 token).allowing false with pending := outer :: more }
  | _ => none

/-- Takes the comma between entries in brackets. -/
def comma (layout : Layout) : Option Layout := do
  let layout ← layout.dropKey
  return (layout.mark 1 .comma).allowing true

/-- Takes the dash of an entry. -/
def dash (layout : Layout) : Option Layout := do
  if !layout.inFlow && !layout.allowsKey then none
  let layout := if layout.inFlow then layout else layout.openBlock .blockList
  let layout ← layout.dropKey
  return (layout.mark 1 .dash).allowing true

/-- Takes the question mark in front of a key. -/
def question (layout : Layout) : Option Layout := do
  if !layout.inFlow && !layout.allowsKey then none
  let layout := if layout.inFlow then layout else layout.openBlock .blockMap
  let layout ← layout.dropKey
  return (layout.mark 1 .key).allowing (!layout.inFlow)

/-- Takes a colon: behind a token that may start a key, it makes it one. -/
def colon (layout : Layout) : Option Layout :=
  match layout.pending with
  | some key :: outer =>
    let behind := layout.count - key.place
    let layout := { layout with pending := none :: outer }.insert behind .key
    let layout :=
      if layout.inFlow then layout
      else match layout.enter key.column with
        | (true, layout) => layout.insert (behind + 1) .blockMap
        | (false, layout) => layout
    some ((layout.mark 1 .value).allowing false)
  | _ => do
    if !layout.inFlow && !layout.allowsKey then none
    let layout := if layout.inFlow then layout else layout.openBlock .blockMap
    let layout ← layout.dropKey
    return (layout.mark 1 .value).allowing (!layout.inFlow)

/-- Takes a token that may start a key and behind which none may start, given how it is read. -/
def lexeme (layout : Layout) (read : Cursor → Option (Token × Cursor)) : Option Layout := do
  let layout ← layout.offerKey
  let (token, next) ← read layout.cursor
  return ((layout.push token).moveTo next).allowing false

/-- Takes a block scalar, which cannot start a key and behind which one may start. -/
def blockScalar (layout : Layout) (folds : Bool) : Option Layout := do
  let layout ← layout.dropKey
  let (text, next) ← layout.cursor.blockScalar? folds layout.indent
  return ((layout.push (.scalar (String.ofList text) false)).moveTo next).allowing true

/-- Takes a scalar without quotes. -/
def plain (layout : Layout) : Option Layout := do
  let layout ← layout.offerKey
  let (text, fresh, next) := layout.cursor.plain layout.inFlow (layout.indent + 1)
  return ((layout.push (.scalar (String.ofList text) true)).moveTo next).allowing fresh

/-- Takes a quoted scalar. -/
def quoted (layout : Layout) (quote : Char) : Option Layout :=
  layout.lexeme fun cursor => (cursor.quoted? quote).map fun (text, next) =>
    (.scalar (String.ofList text) false, next)

/-- Takes the token at the cursor, which starts with the given character. -/
def take (layout : Layout) (c : Char) (rest : List Char) : Option Layout :=
  let cursor := layout.cursor
  let flow := layout.inFlow
  if c == '%' && cursor.column == 0 then do
    let layout ← layout.boundary
    let (directive, next) ← cursor.directive?
    return (layout.push (.directive directive)).moveTo next
  else if cursor.atMarker "---" then layout.boundary.map (·.mark 3 .documentStart)
  else if cursor.atMarker "..." then layout.boundary.map (·.mark 3 .documentEnd)
  else if c == '[' then layout.opening .listOpen
  else if c == '\x7b' then layout.opening .mapOpen
  else if c == ']' then layout.closing .listClose
  else if c == '\x7d' then layout.closing .mapClose
  else if c == ',' then layout.comma
  else if c == '-' && atGap rest then layout.dash
  else if c == '?' && (flow || atGap rest) then layout.question
  else if c == ':' && (flow || atGap rest) then layout.colon
  else if c == '*' then
    layout.lexeme fun cursor => cursor.name?.map fun (name, next) => (.alias name, next)
  else if c == '&' then
    layout.lexeme fun cursor => cursor.name?.map fun (name, next) => (.anchor name, next)
  else if c == '!' then
    layout.lexeme fun cursor => cursor.tag?.map fun (name, next) => (.tag name, next)
  else if c == '|' && !flow then layout.blockScalar false
  else if c == '>' && !flow then layout.blockScalar true
  else if c == '\'' || c == '"' then layout.quoted c
  else if startsPlain flow (c :: rest) then layout.plain
  else none

/-! ## The whole text -/

/-- Moves to the next token and closes the collections that it leaves. -/
def proceed (layout : Layout) : Option Layout := do
  let (fresh, cursor) := layout.cursor.skip
  let allowsKey := layout.allowsKey || (fresh && !layout.inFlow)
  let layout ← dropStale { layout with cursor, allowsKey }
  return layout.unwind cursor.column

/-- Finds all tokens from a position on. -/
def finish : (fuel : Nat) → Layout → Option (List Token)
  | 0, _ => none
  | fuel + 1, layout => do
    let layout ← layout.proceed
    match layout.cursor.rest with
    | [] =>
      let layout ← (layout.unwind (-1)).dropKey
      return layout.tokens.reverse
    | c :: rest =>
      let layout ← layout.take c rest
      finish fuel layout

end Layout

/-- The tokens of a text. Every step takes at least one character, so one step for each and one for the
end are enough. -/
def tokens? (text : List Char) : Option (List Token) :=
  let text := if text.head? == some byteOrderMark then text.drop 1 else text
  Layout.finish (text.length + 1) { cursor := { rest := text } }

end PrimeReasoner.Yaml
