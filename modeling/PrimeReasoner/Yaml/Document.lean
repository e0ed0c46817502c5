import PrimeReasoner.Yaml.Layout
import PrimeReasoner.Yaml.Node

/-!
# Documents

A document is one node: a scalar, a list or a mapping. In front of a node may stand a tag, which names
its kind, and an anchor, under which later nodes may refer to it.

* `Reader` reads from a row of tokens, knowing the anchors and the handles of tags, and keeps the collections
  that it has read.
* `Reader.node` reads a node; its collections are read by `Reader.flowItems`, `Reader.flowEntries`,
  `Reader.blockItems` and `Reader.blockEntries`.
* `document?` reads a text that holds at most one document; an empty one stands for nothing.

Reading gives nothing if the text is not well formed.
-/

namespace PrimeReasoner.Yaml

/-- What is left to read, and what names stand for. -/
structure Reading where
  /-- The tokens that follow. -/
  tokens : List Token
  /-- The nodes that have been given a name, the last one first. -/
  anchors : List (String × Node) := []
  /-- What the handles of tags stand for. -/
  handles : List (String × String) := []
  /-- The collections that have been begun, those without an end as yet as empty lists. -/
  collections : Array Collection := #[]

/-- A computation that reads tokens and may fail. -/
abbrev Reader := StateT Reading Option

namespace Reader

/-- The next token. -/
def peek : Reader (Option Token) := return (← get).tokens.head?

/-- Moves past the next token. -/
def next : Reader Unit := modify fun reading => { reading with tokens := reading.tokens.drop 1 }

/-- Moves past the next token if it is the given one; says whether it was. -/
def accept (token : Token) : Reader Bool := do
  if (← peek) == some token then
    next
    return true
  else return false

/-- Moves past the given token, which must be the next one. -/
def expect (token : Token) : Reader Unit := do
  if !(← accept token) then failure

/-- Is the next token one of the given ones? -/
def isAt (tokens : List Token) : Reader Bool := do
  match ← peek with
  | some token => return tokens.contains token
  | none => return false

/-- The tag at the front, with its handle replaced by what it stands for. -/
def tag? : Reader (Option String) := do
  match ← peek with
  | some (.tag name) =>
    next
    match name.handle with
    | none => return some name.suffix
    | some handle =>
      match (← get).handles.lookup handle with
      | some expansion => return some (expansion ++ name.suffix)
      | none => failure
  | _ => return none

/-- The anchor at the front. -/
def anchor? : Reader (Option String) := do
  match ← peek with
  | some (.anchor name) =>
    next
    return some name
  | _ => return none

/-- The anchor and the tag in front of a node, in either order. -/
def properties : Reader (Option String × Option String) := do
  match ← anchor? with
  | some anchor => return (some anchor, ← tag?)
  | none =>
    let tag ← tag?
    if tag.isSome then return (← anchor?, tag) else return (none, none)

/-- Gives a node a name. -/
def bind (anchor : Option String) (node : Node) : Reader Unit :=
  match anchor with
  | none => return ()
  | some name => modify fun reading => { reading with anchors := (name, node) :: reading.anchors }

/-- Refuses a name that has been given before. -/
def checkNew (anchor : Option String) : Reader Unit := do
  match anchor with
  | none => return ()
  | some name => if ((← get).anchors.lookup name).isSome then failure

/-- Is the kind of a node left to its form? -/
def isOpenTag (tag : Option String) : Bool := tag.all (· == "!")

/-- The kind of a collection, given the one that its form shows. -/
def collectionKind (kind : Kind) (tag : Option String) : Kind :=
  if isOpenTag tag then kind else (tag.map Kind.ofTag).getD kind

/-- The kind of a scalar. In quotes it is a text, unless it has a tag. -/
def scalarKind (tag : Option String) (text : String) (plain : Bool) : Kind :=
  match tag with
  | none => if plain then Kind.ofForm text.toList else .text
  | some "!" => Kind.ofForm text.toList
  | some tag => Kind.ofTag tag

/-- Reads a collection, to which its name refers from its beginning on. -/
def collection (anchor : Option String) (read : Reader Collection) : Reader Node := do
  let place := (← get).collections.size
  modify fun reading => { reading with collections := reading.collections.push (.list .list []) }
  bind anchor (.collection place)
  let collection ← read
  modify fun reading =>
    { reading with collections := reading.collections.setIfInBounds place collection }
  return .collection place

/-- Tokens before which the value of a block list is missing. -/
def endsItem : List Token := [.dash, .blockEnd]

/-- Tokens before which a key or value of a block mapping is missing. -/
def endsEntry : List Token := [.key, .value, .blockEnd]

/-- Tokens before which the value of a list in the column of a mapping's keys is missing. -/
def endsIndentless : List Token := [.dash, .key, .value, .blockEnd]

/-- The node of a missing scalar, which must have an anchor or a tag. -/
def emptyNode (anchor tag : Option String) : Reader Node := do
  if anchor.isNone && tag.isNone then failure
  let node := Node.scalar (collectionKind .null tag) ""
  bind anchor node
  return node

mutual

/-- Reads a node that may be nested `depth` collections deep. Block collections may start here only if
`block` is set, and a list in the column of a mapping's keys only if `indentless` is set. -/
def node (block indentless : Bool) : (fuel : Nat) → (depth : Nat) → Reader Node
  | 0, _ | _, 0 => failure
  | fuel + 1, depth + 1 => do
    match ← peek with
    | some (.alias name) =>
      next
      match (← get).anchors.lookup name with
      | some node => return node
      | none => failure
    | _ =>
      let (anchor, tag) ← properties
      checkNew anchor
      match ← peek with
      | some (.scalar text plain) =>
        next
        let node := Node.scalar (scalarKind tag text plain) text
        bind anchor node
        return node
      | some .dash =>
        if indentless then
          collection anchor do
            return .list (collectionKind .list tag) (← indentlessItems fuel depth)
        else emptyNode anchor tag
      | some .listOpen =>
        next
        collection anchor do
          return .list (collectionKind .list tag) (← flowItems true fuel depth)
      | some .mapOpen =>
        next
        collection anchor do
          return .map (collectionKind .map tag) (← flowEntries true fuel depth)
      | some .blockList =>
        if block then
          next
          collection anchor do
            return .list (collectionKind .list tag) (← blockItems fuel depth)
        else emptyNode anchor tag
      | some .blockMap =>
        if block then
          next
          collection anchor do
            return .map (collectionKind .map tag) (← blockEntries fuel depth)
        else emptyNode anchor tag
      | _ => emptyNode anchor tag
termination_by structural fuel => fuel

/-- Reads a node unless one of the given tokens follows, before which it is missing. -/
def nodeUnless (ends : List Token) (block indentless : Bool) : (fuel : Nat) → (depth : Nat) → Reader Node
  | 0, _ => failure
  | fuel + 1, depth => do
    if ← isAt ends then return .empty else node block indentless fuel depth
termination_by structural fuel => fuel

/-- Reads the items of a list in brackets, behind the opening bracket or behind an item. An item with a
colon is a mapping of its own. -/
def flowItems (first : Bool) : (fuel : Nat) → (depth : Nat) → Reader (List Node)
  | 0, _ => failure
  | fuel + 1, depth => do
    if ← accept .listClose then return []
    if !first then expect .comma
    if ← accept .listClose then return []
    if ← accept .key then
      let entry ← flowPair .listClose fuel depth
      let item ← collection none (return .map .map [entry])
      let items ← flowItems false fuel depth
      return item :: items
    else
      let item ← node false false fuel depth
      let items ← flowItems false fuel depth
      return item :: items
termination_by structural fuel => fuel

/-- Reads an entry in brackets behind the start of its key; both its key and its value may be missing. -/
def flowPair (close : Token) : (fuel : Nat) → (depth : Nat) → Reader (Node × Node)
  | 0, _ => failure
  | fuel + 1, depth => do
    let key ← nodeUnless [.value, .comma, close] false false fuel depth
    if ← accept .value then
      let value ← nodeUnless [.comma, close] false false fuel depth
      return (key, value)
    else return (key, .empty)
termination_by structural fuel => fuel

/-- Reads the entries of a mapping in brackets, behind the opening bracket or behind an entry. An entry
without a colon has no value. -/
def flowEntries (first : Bool) : (fuel : Nat) → (depth : Nat) → Reader (List (Node × Node))
  | 0, _ => failure
  | fuel + 1, depth => do
    if ← accept .mapClose then return []
    if !first then expect .comma
    if ← accept .mapClose then return []
    if ← accept .key then
      let entry ← flowPair .mapClose fuel depth
      let entries ← flowEntries false fuel depth
      return entry :: entries
    else
      let key ← node false false fuel depth
      let entries ← flowEntries false fuel depth
      return (key, .empty) :: entries
termination_by structural fuel => fuel

/-- Reads the items of a block list. -/
def blockItems : (fuel : Nat) → (depth : Nat) → Reader (List Node)
  | 0, _ => failure
  | fuel + 1, depth => do
    if ← accept .dash then
      let item ← nodeUnless endsItem true false fuel depth
      let items ← blockItems fuel depth
      return item :: items
    else
      expect .blockEnd
      return []
termination_by structural fuel => fuel

/-- Reads the items of a block list in the column of a mapping's keys; nothing marks its end. -/
def indentlessItems : (fuel : Nat) → (depth : Nat) → Reader (List Node)
  | 0, _ => failure
  | fuel + 1, depth => do
    if ← accept .dash then
      let item ← nodeUnless endsIndentless true false fuel depth
      let items ← indentlessItems fuel depth
      return item :: items
    else return []
termination_by structural fuel => fuel

/-- Reads the entries of a block mapping. -/
def blockEntries : (fuel : Nat) → (depth : Nat) → Reader (List (Node × Node))
  | 0, _ => failure
  | fuel + 1, depth => do
    if ← accept .key then
      let key ← nodeUnless endsEntry true true fuel depth
      let value ←
        if ← accept .value then nodeUnless endsEntry true true fuel depth else pure Node.empty
      let entries ← blockEntries fuel depth
      return (key, value) :: entries
    else
      expect .blockEnd
      return []
termination_by structural fuel => fuel

end

/-! ## The whole text -/

/-- Handles of tags that need no directive. -/
def commonHandles : List (String × String) := [("!", "!"), ("!!", commonTags)]

/-- Takes over directives: a version must be one point something and be given once, and a handle must be
explained once. -/
def directives (versioned : Bool) : (fuel : Nat) → Reader Unit
  | 0 => failure
  | fuel + 1 => do
    match ← peek with
    | some (.directive (.version major)) =>
      next
      if versioned || major != 1 then failure
      directives true fuel
    | some (.directive (.handle name expansion)) =>
      next
      if ((← get).handles.lookup name).isSome then failure
      modify fun reading => { reading with handles := (name, expansion) :: reading.handles }
      directives versioned fuel
    | some (.directive .other) =>
      next
      directives versioned fuel
    | _ => modify fun reading => { reading with handles := reading.handles ++ commonHandles }

/-- Moves past any marks that end a document. -/
def documentEnds : (fuel : Nat) → Reader Unit
  | 0 => return ()
  | fuel + 1 => do
    if ← accept .documentEnd then documentEnds fuel

/-- Is the next token one before which the content of a document is missing? -/
def isDocumentOver : Reader Bool := do
  match ← peek with
  | none | some (.directive _) | some .documentStart | some .documentEnd => return true
  | _ => return false

/-- Is the next token one behind which a document begins that is announced? -/
def isAnnounced : Reader Bool := do
  match ← peek with
  | some (.directive _) | some .documentStart => return true
  | _ => return false

/-- Reads the only document, in which collections may be nested `depth` deep; there may be none. -/
def document (fuel depth : Nat) : Reader Node := do
  if (← peek).isNone then return .empty
  let root ←
    if ← isAnnounced then
      directives false fuel
      expect .documentStart
      if ← isDocumentOver then pure Node.empty else node true false fuel depth
    else
      modify fun reading => { reading with handles := commonHandles }
      node true false fuel depth
  documentEnds fuel
  if (← peek).isSome then failure
  return root

end Reader

/-- How deep the collections in a document may be nested on a machine of common size. -/
def usualDepth : Nat := 485

/-- Reads a text that holds at most one document, in which collections may be nested `depth` deep. -/
def document? (depth : Nat) (text : String) : Option Setting := do
  let chars := text.toList
  if !chars.all isAllowed then none
  let tokens ← tokens? chars
  let fuel := 4 * (tokens.length + 1)
  let (root, reading) ← (Reader.document fuel depth).run { tokens }
  let (found, _) ← (root.value fuel []).run { collections := reading.collections }
  return found.1

end PrimeReasoner.Yaml
