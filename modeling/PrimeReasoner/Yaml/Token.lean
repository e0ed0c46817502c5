/-!
# Tokens of a document

A document is a row of tokens. Besides those that are written there are some that only the layout
shows: where a block collection starts and ends, and where a key starts that is followed by a colon.
-/

namespace PrimeReasoner.Yaml

/-- A directive, in front of a document. -/
inductive Directive where
  /-- The version that the document follows; only its first part matters. -/
  | version (major : Nat)
  /-- What a handle of tags stands for. -/
  | handle (name expansion : String)
  /-- Any other directive. -/
  | other
deriving DecidableEq, Repr

/-- The name of a kind of values, as it is written. -/
structure TagName where
  /-- The handle that the name starts with, if it has one. -/
  handle : Option String
  /-- The rest of the name. -/
  suffix : String
deriving DecidableEq, Repr

/-- A token. -/
inductive Token where
  /-- A directive. -/
  | directive (value : Directive)
  /-- The mark that begins a document. -/
  | documentStart
  /-- The mark that ends a document. -/
  | documentEnd
  /-- The bracket that opens a list. -/
  | listOpen
  /-- The bracket that closes a list. -/
  | listClose
  /-- The bracket that opens a mapping. -/
  | mapOpen
  /-- The bracket that closes a mapping. -/
  | mapClose
  /-- The comma between entries in brackets. -/
  | comma
  /-- The dash of an entry of a block list. -/
  | dash
  /-- The start of a key. -/
  | key
  /-- The colon in front of a value. -/
  | value
  /-- The start of a block list. -/
  | blockList
  /-- The start of a block mapping. -/
  | blockMap
  /-- The end of a block list or mapping. -/
  | blockEnd
  /-- A reference to a node that has been given a name. -/
  | alias (name : String)
  /-- The name of the node that follows. -/
  | anchor (name : String)
  /-- The kind of the node that follows. -/
  | tag (name : TagName)
  /-- A scalar, and whether it is written without quotes and without a block mark. -/
  | scalar (text : String) (plain : Bool)
deriving DecidableEq, Repr

end PrimeReasoner.Yaml
