import PrimeReasoner.Text.Lines
import PrimeReasoner.Yaml.Pattern

/-!
# Kinds of nodes

Every node of a document is of a kind, which a tag names or the form of the node shows. Only the kinds
listed here can be turned into values.
-/

namespace PrimeReasoner.Yaml

/-- The kind of a node. -/
inductive Kind where
  /-- Nothing. -/
  | null
  /-- A truth value. -/
  | bool
  /-- An integer. -/
  | int
  /-- A number with a point. -/
  | float
  /-- Raw bytes. -/
  | binary
  /-- A day or a moment. -/
  | timestamp
  /-- A text. -/
  | text
  /-- A list. -/
  | list
  /-- A list of single entries, each with a key. -/
  | pairs
  /-- A mapping. -/
  | map
  /-- A set, written as a mapping without values. -/
  | set
  /-- The key under which the entries of other mappings are taken over. -/
  | merge
  /-- The key under which a mapping holds its main value. -/
  | main
  /-- Any other kind. -/
  | other
deriving DecidableEq, Repr

/-- What the full names of all known kinds start with. -/
def commonTags : String := "tag:yaml.org,2002:"

/-- The known kinds with the ends of their names. -/
def Kind.names : List (String × Kind) := [
  ("null", .null), ("bool", .bool), ("int", .int), ("float", .float), ("binary", .binary),
  ("timestamp", .timestamp), ("str", .text), ("seq", .list), ("omap", .pairs), ("pairs", .pairs),
  ("map", .map), ("set", .set), ("merge", .merge), ("value", .main)]

/-- The kind that a tag names. -/
def Kind.ofTag (tag : String) : Kind :=
  match Kind.names.find? fun entry => commonTags ++ entry.1 == tag with
  | some (_, kind) => kind
  | none => .other

/-- The kind of a scalar that is given none, by its form. A line feed at its end does not count. -/
def Kind.ofForm (s : List Char) : Kind :=
  let form := Text.withoutFinalFeed s
  if s.head? == some '\n' then .text
  else if isNull form then .null
  else if isBool form then .bool
  else if isFloat form then .float
  else if isInteger form then .int
  else if form == ['<', '<'] then .merge
  else if isTimestamp form then .timestamp
  else if form == ['='] then .main
  else if form == ['!'] || form == ['&'] || form == ['*'] then .other
  else .text

end PrimeReasoner.Yaml
