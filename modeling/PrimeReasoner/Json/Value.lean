import PrimeReasoner.Text.Quoted

/-!
# JSON values

* `Json.Word` is what stands between quotes: a text, or something that is no text because half of a
  surrogate pair is in it.
* `Json` is the type of values. A number is kept as it is written; an object keeps its fields in
  order, and a field that is given twice counts with its last value.
* `Json.compact` writes a value in one line, `Json.pretty` over several lines, each level indented by
  two blanks; both write every character outside of printable ASCII as an escape.
-/

namespace PrimeReasoner

/-- What stands between quotes. -/
inductive Json.Word where
  /-- A text. -/
  | text (value : String)
  /-- Codes of which at least one is half of a surrogate pair alone. -/
  | torn (codes : List Nat)
deriving DecidableEq, Repr

instance : Coe String Json.Word := ⟨.text⟩

/-- A JSON value. -/
inductive Json where
  /-- Nothing. -/
  | null
  /-- A truth value. -/
  | bool (value : Bool)
  /-- A number, as it is written. -/
  | number (text : String)
  /-- A text, or what stands for one. -/
  | string (value : Json.Word)
  /-- A list of values. -/
  | array (items : List Json)
  /-- Named values. -/
  | object (fields : List (Json.Word × Json))
deriving Inhabited

namespace Json

/-- A natural number as a value. -/
def nat (n : Nat) : Json := .number (toString n)

/-- Texts as a value. -/
def strings (texts : List String) : Json := .array (texts.map fun (text : String) => .string text)

/-- A text that may be missing. -/
def optional : Option String → Json
  | some text => .string text
  | none => .null

/-- The value of a field; the last one, if it is given more than once. -/
def field? (name : String) (fields : List (Word × Json)) : Option Json :=
  (fields.reverse.find? fun entry => entry.1 == .text name).map Prod.snd

/-- A 16-bit code as an escape. -/
def unitEscape (unit : Nat) : List Char := '\\' :: 'u' :: Text.hexDigits 4 unit

/-- The form of a code inside a text. A character beyond the basic plane is written as the two halves
of its surrogate pair. -/
def codeEscape (code : Nat) : List Char :=
  if code < 0x10000 then unitEscape code
  else
    let offset := code - 0x10000
    unitEscape (0xD800 + offset / 0x400) ++ unitEscape (0xDC00 + offset % 0x400)

/-- The form of a character inside a text. -/
def escape (c : Char) : List Char :=
  if c = '"' then ['\\', '"']
  else if c = '\\' then ['\\', '\\']
  else if c = '\n' then ['\\', 'n']
  else if c = '\r' then ['\\', 'r']
  else if c = '\t' then ['\\', 't']
  else if c = '\x0c' then ['\\', 'f']
  else if c = '\x08' then ['\\', 'b']
  else if ' ' ≤ c ∧ c ≤ '~' then [c]
  else codeEscape c.toNat

/-- A text between quotes. -/
def quote : Word → String
  | .text value => String.ofList ('"' :: value.toList.flatMap escape ++ ['"'])
  | .torn codes => String.ofList ('"' :: codes.flatMap codeEscape ++ ['"'])

mutual

/-- Writes a value in one line. -/
def compact : Json → String
  | .null => "null"
  | .bool true => "true"
  | .bool false => "false"
  | .number text => text
  | .string value => quote value
  | .array items => "[" ++ ",".intercalate (compactItems items) ++ "]"
  | .object fields => "\x7b" ++ ",".intercalate (compactFields fields) ++ "\x7d"

/-- Writes the items of a list. -/
def compactItems : List Json → List String
  | [] => []
  | item :: items => compact item :: compactItems items

/-- Writes the fields of an object. -/
def compactFields : List (Word × Json) → List String
  | [] => []
  | (name, value) :: fields => (quote name ++ ":" ++ compact value) :: compactFields fields

end

/-- A new line at the given depth. -/
def newline (depth : Nat) : String := "\n" ++ String.ofList (List.replicate (2 * depth) ' ')

/-- Encloses written parts, each on a line of its own one level deeper. -/
def enclose (opening closing : String) (depth : Nat) (parts : List String) : String :=
  if parts.isEmpty then opening ++ closing
  else
    let separator := "," ++ newline (depth + 1)
    opening ++ newline (depth + 1) ++ separator.intercalate parts ++ newline depth ++ closing

mutual

/-- Writes a value that stands at the given depth. -/
def prettyAt (depth : Nat) : Json → String
  | .null => "null"
  | .bool true => "true"
  | .bool false => "false"
  | .number text => text
  | .string value => quote value
  | .array items => enclose "[" "]" depth (prettyItems (depth + 1) items)
  | .object fields => enclose "\x7b" "\x7d" depth (prettyFields (depth + 1) fields)

/-- Writes the items of a list. -/
def prettyItems (depth : Nat) : List Json → List String
  | [] => []
  | item :: items => prettyAt depth item :: prettyItems depth items

/-- Writes the fields of an object. -/
def prettyFields (depth : Nat) : List (Word × Json) → List String
  | [] => []
  | (name, value) :: fields =>
    (quote name ++ ": " ++ prettyAt depth value) :: prettyFields depth fields

end

/-- Writes a value over several lines. -/
def pretty (json : Json) : String := prettyAt 0 json

end Json

end PrimeReasoner
