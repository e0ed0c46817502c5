import PrimeReasoner.Yaml.Value

/-!
# Nodes

A document is a node: a scalar or a collection of nodes, of some kind. Names may refer to a collection
from anywhere behind its beginning, also from inside of it, so the collections of a document are kept in a
row, and a node refers to the place of its collection.

* `Collection` is a collection as it is written, `Building` a row of them.
* `Building.flatten` takes over the entries of other mappings, which stand in front of a mapping's own.
* `Node.value` finds the value of a node. A node that is never looked at may be without a value, so a
  document with such a node is refused only when the value is asked for.
-/

namespace PrimeReasoner.Yaml

/-- A node of a document. -/
inductive Node where
  /-- A scalar with its kind. -/
  | scalar (kind : Kind) (text : String)
  /-- The collection at a place. -/
  | collection (place : Nat)

/-- A collection as it is written, of some kind. -/
inductive Collection where
  /-- A list. -/
  | list (kind : Kind) (items : List Node)
  /-- Entries. -/
  | map (kind : Kind) (entries : List (Node × Node))

namespace Node

/-- The node of a missing scalar. -/
def empty : Node := .scalar .null ""

/-- Is this the given kind of scalar? -/
def isScalar (kind : Kind) : Node → Bool
  | .scalar found _ => found == kind
  | _ => false

/-- The key under which an entry is found: the mark of the main value is then a text. -/
def asKey : Node → Node
  | .scalar .main text => .scalar .text text
  | node => node

end Node

/-- The collections of a document while values are found for them. -/
structure Building where
  /-- The collections. -/
  collections : Array Collection
  /-- The values that have been found, of collections that refer to nothing around them. -/
  values : List (Nat × Setting) := []

/-- A computation on the collections of a document, which may fail. -/
abbrev Builder := StateT Building Option

namespace Building

/-- The collection at a place. -/
def collectionAt (place : Nat) : Builder Collection := do
  match (← get).collections[place]? with
  | some collection => return collection
  | none => failure

/-- The entries of the mapping at a place. -/
def entriesAt (place : Nat) : Builder (List (Node × Node)) := do
  match ← collectionAt place with
  | .map _ entries => return entries
  | .list .. => failure

/-- Puts other entries into the mapping at a place. -/
def putEntries (place : Nat) (entries : List (Node × Node)) : Builder Unit := do
  match ← collectionAt place with
  | .map kind _ => modify fun building =>
    { building with collections := building.collections.setIfInBounds place (.map kind entries) }
  | .list .. => failure

/-- The place of a mapping. -/
def mappingOf : Node → Builder Nat
  | .collection place => do
    let _ ← entriesAt place
    return place
  | .scalar .. => failure

/-- The mappings from which entries are taken over: one, or those in a list. -/
def sourcesOf (node : Node) : Builder (List Nat) := do
  match node with
  | .scalar .. => failure
  | .collection place =>
    match ← collectionAt place with
    | .map .. => return [place]
    | .list _ items => items.mapM mappingOf

mutual

/-- Puts the entries that a mapping takes over in front of its own. -/
def flatten : (fuel : Nat) → (place : Nat) → Builder Unit
  | 0, _ => failure
  | fuel + 1, place => do
    let taken ← takeOver fuel place
    let own ← entriesAt place
    putEntries place (taken ++ own.map fun (key, value) => (key.asKey, value))

/-- The entries that a mapping takes over from others. Where it names them is forgotten before they are looked
at, as they may take over its own entries in turn. Of several mappings in a list, the first ones count most. -/
def takeOver : (fuel : Nat) → (place : Nat) → Builder (List (Node × Node))
  | 0, _ => failure
  | fuel + 1, place => do
    let entries ← entriesAt place
    match entries.span fun entry => !entry.1.isScalar .merge with
    | (_, []) => return []
    | (before, (_, node) :: behind) =>
      putEntries place (before ++ behind)
      let sources ← sourcesOf node
      sources.forM (flatten fuel)
      let taken ← sources.reverse.mapM entriesAt
      return taken.flatten ++ (← takeOver fuel place)

end

/-- The text of a scalar, or of the main value of a mapping. -/
def mainText : (fuel : Nat) → Node → Builder String
  | _, .scalar _ text => return text
  | 0, _ => failure
  | fuel + 1, .collection place => do
    match (← entriesAt place).find? fun entry => entry.1.isScalar .main with
    | some (_, node) => mainText fuel node
    | none => failure

end Building

/-- A value, and how many of the collections around it it refers to at most. -/
abbrev Reaching := Setting × Nat

/-- How many collections around a collection its parts refer to at most. -/
def reachOf (parts : List Reaching) : Nat := (parts.map Prod.snd).foldl max 0 - 1

/-- The entries of a mapping: among equal keys the last one wins, in the place of the first. -/
def mapValue? (entries : List (Reaching × Reaching)) : Option (List (Setting × Setting)) :=
  entries.foldlM (fun found (key, value) =>
    if key.1.isKey then some (Setting.put found key.1 value.1) else none) []

namespace Node

open Building

/-- The value of a node. `around` are the places of the collections around it, the innermost one first;
collections that are at no place of their own stand among them as well. What refers to one of them is
told by how far out it is. -/
def value : (fuel : Nat) → (around : List (Option Nat)) → Node → Builder Reaching
  | _, _, .scalar kind text =>
    match scalarValue? kind text with
    | some found => return (.scalar found, 0)
    | none => failure
  | 0, _, .collection _ => failure
  | fuel + 1, around, .collection place => do
    match around.idxOf? (some place), (← get).values.lookup place with
    | some inner, _ => return (.within inner, inner + 1)
    | none, some found => return (found, 0)
    | none, none =>
      let part := value fuel (some place :: around)
      let (found, reach) ←
        match ← collectionAt place with
        | .list .list items =>
          let parts ← items.mapM part
          pure (.list (parts.map Prod.fst), reachOf parts)
        | .list .pairs items =>
          let parts ← items.mapM fun item => do
            match ← entriesAt (← mappingOf item) with
            | [(key, content)] =>
              let pair ← [key, content].mapM (value fuel (none :: some place :: around))
              pure (.list (pair.map Prod.fst), reachOf pair)
            | _ => failure
          pure (.list (parts.map Prod.fst), reachOf parts)
        | .list .. | .map .timestamp _ => failure
        | .map kind _ =>
          if kind == .map || kind == .set then
            flatten fuel place
            let parts ← (← entriesAt place).mapM fun (key, content) => do
              return (← part key, ← part content)
            match mapValue? parts with
            | none => failure
            | some entries =>
              if kind == .map then
                pure (.map entries, reachOf (parts.map Prod.snd))
              else pure (.set (entries.map Prod.fst), 0)
          else
            let text ← mainText fuel (.collection place)
            match scalarValue? kind text with
            | some found => pure (.scalar found, 0)
            | none => failure
      if reach = 0 then
        modify fun building => { building with values := (place, found) :: building.values }
      return (found, reach)
termination_by structural fuel => fuel

end Node

end PrimeReasoner.Yaml
