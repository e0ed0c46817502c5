import PrimeReasoner.Calendar
import PrimeReasoner.Number.Numeral
import PrimeReasoner.Number.Shortest

/-!
# Settings

A configuration file may put anything behind an option: nothing, a truth value, a number, a text, a
day, raw bytes, or a collection of these. Options are taken over unchecked and are only looked at when
they are used, so a setting is kept as it was read. A collection may hold itself; inside of it, it is
then referred to by how far out it is.

* `Scalar` is a single value, and `Scalar.toText` its text.
* `Setting` adds lists, mappings and sets.
* `Setting.kindName` names the kind of a value in messages, and `Setting.number?` reads a value as
  a number where truth values count as one and zero.
* `Setting.sameKey` says when two values stand for the same entry of a mapping; `Setting.put` sets an
  entry and `Setting.entry?` looks one up.
* `Setting.fill` puts a collection in the place of what refers to it. `Setting.member?` takes an entry out
  of a mapping, and `Setting.entries?` all of them; they are complete also where they stood for the mapping.
* `Setting.anyPart` tests a value and all that it holds, and `Setting.isDeeper` how deep it is nested.
-/

namespace PrimeReasoner

/-- A single value. -/
inductive Scalar where
  /-- No value. -/
  | null
  /-- A truth value. -/
  | bool (value : Bool)
  /-- An integer of any size. -/
  | int (value : Int)
  /-- A number with a point. -/
  | float (value : Double)
  /-- A text. -/
  | text (value : String)
  /-- A day. -/
  | date (value : Date)
  /-- A moment of a day. -/
  | moment (value : Moment)
  /-- Raw bytes. -/
  | bytes (value : List Nat)
deriving DecidableEq, Repr

/-- An integer or a number with a point. -/
inductive Number where
  /-- An integer. -/
  | whole (value : Int)
  /-- A number with a point. -/
  | double (value : Double)
deriving DecidableEq, Repr

namespace Scalar

/-- The text of a value. -/
def toText : Scalar → String
  | .null => "None"
  | .bool true => "True"
  | .bool false => "False"
  | .int value => toString value
  | .float value => value.text
  | .text value => value
  | .date _ | .moment _ | .bytes _ => ""

/-- The value read as a number; a truth value counts as one or zero. -/
def number? : Scalar → Option Number
  | .bool value => some (.whole (if value then 1 else 0))
  | .int value => some (.whole value)
  | .float value => some (.double value)
  | _ => none

end Scalar

/-- Are two numbers equal? -/
def Number.same : Number → Number → Bool
  | .whole m, .whole n => m == n
  | .whole m, .double x | .double x, .whole m => x.integer? == some m
  | .double x, .double y => x.sameValue y

/-- A value as a configuration file may give it. -/
inductive Setting where
  /-- A single value. -/
  | scalar (value : Scalar)
  /-- A list of values. -/
  | list (items : List Setting)
  /-- A mapping, as pairs in the order of their keys' first appearance. -/
  | map (entries : List (Setting × Setting))
  /-- A set of values. -/
  | set (items : List Setting)
  /-- The collection around this place that so many other ones are inside of. -/
  | within (inner : Nat)
deriving Repr

namespace Setting

/-- The absent value. -/
abbrev null : Setting := .scalar .null

/-- An integer as a setting. -/
abbrev int (n : Int) : Setting := .scalar (.int n)

/-- A text as a setting. -/
abbrev text (s : String) : Setting := .scalar (.text s)

/-- The name of a value's kind in messages; of what stands for the collection around it nobody asks. -/
def kindName : Setting → String
  | .scalar .null => "NoneType"
  | .scalar (.bool _) => "bool"
  | .scalar (.int _) => "int"
  | .scalar (.float _) => "float"
  | .scalar (.text _) => "str"
  | .scalar (.date _) => "datetime.date"
  | .scalar (.moment _) => "datetime.datetime"
  | .scalar (.bytes _) => "bytes"
  | .list _ => "list"
  | .map _ | .within _ => "dict"
  | .set _ => "set"

/-- Is the value neither absent nor false nor zero nor empty? -/
def isTruthy : Setting → Bool
  | .scalar .null => false
  | .scalar (.bool value) => value
  | .scalar (.int value) => value != 0
  | .scalar (.float value) => !value.isZero
  | .scalar (.text value) => value != ""
  | .scalar (.date _) | .scalar (.moment _) | .within _ => true
  | .scalar (.bytes value) => !value.isEmpty
  | .list items | .set items => !items.isEmpty
  | .map entries => !entries.isEmpty

/-- The value read as a number; a truth value counts as one or zero. -/
def number? : Setting → Option Number
  | .scalar value => value.number?
  | _ => none

/-! ## Entries of mappings -/

/-- Can the value be the key of a mapping? -/
def isKey : Setting → Bool
  | .scalar _ => true
  | _ => false

/-- Do two keys stand for the same entry? Equal numbers do, of whatever kind they are. -/
def sameKey : Setting → Setting → Bool
  | .scalar a, .scalar b =>
    match a.number?, b.number? with
    | some m, some n => m.same n
    | none, none => a == b
    | _, _ => false
  | _, _ => false

/-- Sets an entry of a mapping; an entry with the same key keeps its place. -/
def put (entries : List (Setting × Setting)) (key value : Setting) : List (Setting × Setting) :=
  if entries.any fun entry => entry.1.sameKey key then
    entries.map fun entry => if entry.1.sameKey key then (entry.1, value) else entry
  else entries ++ [(key, value)]

/-- The entry of a mapping with the given name. -/
def entry? (name : String) (entries : List (Setting × Setting)) : Option Setting :=
  (entries.find? fun entry => entry.1.sameKey (.text name)).map Prod.snd

/-! ## Collections that hold themselves -/

mutual

/-- The value with `whole` in the place of what refers to the collection `depth` levels further out. A key
is never a collection. -/
def fill (whole : Setting) : (depth : Nat) → Setting → Setting
  | _, .scalar value => .scalar value
  | depth, .list items => .list (fillItems whole (depth + 1) items)
  | depth, .map entries => .map (fillEntries whole (depth + 1) entries)
  | depth, .set items => .set (fillItems whole (depth + 1) items)
  | depth, .within inner => if inner = depth then whole else .within inner

/-- The values with `whole` in the place of what refers to it. -/
def fillItems (whole : Setting) : (depth : Nat) → List Setting → List Setting
  | _, [] => []
  | depth, item :: items => fill whole depth item :: fillItems whole depth items

/-- The entries with `whole` in the place of what refers to it. -/
def fillEntries (whole : Setting) : (depth : Nat) → List (Setting × Setting) → List (Setting × Setting)
  | _, [] => []
  | depth, (key, value) :: entries =>
    (key, fill whole depth value) :: fillEntries whole depth entries

end

/-- The entry of a mapping with the given name, with the mapping in the place of what refers to it. -/
def member? (name : String) : Setting → Option Setting
  | .map entries => (Setting.entry? name entries).map (fill (.map entries) 0)
  | _ => none

/-- The entries of a mapping, with the mapping in the place of what refers to it. -/
def entries? : Setting → Option (List (Setting × Setting))
  | .map entries => some (fillEntries (.map entries) 0 entries)
  | _ => none

/-! ## Parts of values -/

mutual

/-- Does the test hold for the value or for a part of it, the keys of mappings included? -/
def anyPart (test : Setting → Bool) : Setting → Bool
  | .scalar value => test (.scalar value)
  | .list items => test (.list items) || anyItem test items
  | .map entries => test (.map entries) || anyEntry test entries
  | .set items => test (.set items) || anyItem test items
  | .within inner => test (.within inner)

/-- Does the test hold for one of the values or for a part of one? -/
def anyItem (test : Setting → Bool) : List Setting → Bool
  | [] => false
  | item :: items => anyPart test item || anyItem test items

/-- Does the test hold for a key or a value of the entries or for a part of one? -/
def anyEntry (test : Setting → Bool) : List (Setting × Setting) → Bool
  | [] => false
  | (key, value) :: entries => anyPart test key || anyPart test value || anyEntry test entries

end

mutual

/-- Are collections nested in the value more than `levels` deep? One that holds itself is. -/
def isDeeper : (levels : Nat) → Setting → Bool
  | _, .scalar _ => false
  | 0, _ => true
  | _ + 1, .within _ => true
  | levels + 1, .list items => isItemDeeper levels items
  | levels + 1, .map entries => isEntryDeeper levels entries
  | levels + 1, .set items => isItemDeeper levels items

/-- Is one of the values nested more than `levels` deep? -/
def isItemDeeper (levels : Nat) : List Setting → Bool
  | [] => false
  | item :: items => isDeeper levels item || isItemDeeper levels items

/-- Is a key or a value of the entries nested more than `levels` deep? -/
def isEntryDeeper (levels : Nat) : List (Setting × Setting) → Bool
  | [] => false
  | (key, value) :: entries =>
    isDeeper levels key || isDeeper levels value || isEntryDeeper levels entries

end

/-- Does the value hold an integer of more digits than are written out? -/
def isUnwritable : Setting → Bool :=
  anyPart fun
    | .scalar (.int n) => tenPower Numeral.maxDigits ≤ n.natAbs
    | _ => false

end Setting

end PrimeReasoner
