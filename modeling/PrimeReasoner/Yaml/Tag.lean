import PrimeReasoner.Text.Digit
import PrimeReasoner.Yaml.Cursor
import PrimeReasoner.Yaml.Token

/-!
# Names, tags and directives

* `Cursor.name?` reads the name of an anchor or alias.
* `Cursor.tag?` reads a tag: a full name between angles, a handle with a suffix, or an exclamation mark
  alone.
* `Cursor.directive?` reads a directive with the rest of its line.
-/

namespace PrimeReasoner.Yaml

/-- Is the character a letter or digit of ASCII? -/
def isAlphanumeric (c : Char) : Bool :=
  ('0' ≤ c && c ≤ '9') || ('A' ≤ c && c ≤ 'Z') || ('a' ≤ c && c ≤ 'z')

/-- Is the character part of a name? -/
def isNameChar (c : Char) : Bool := isAlphanumeric c || c == '-' || c == '_'

/-- Is the character part of a tag? -/
def isTagChar (c : Char) : Bool :=
  isAlphanumeric c || "-;/?:@&=+$,_.!~*'()[]%".toList.contains c

/-- The bytes written as two hexadecimal digits behind percent signs, at the start of a text. -/
def percentBytes? : List Char → Option (List UInt8 × List Char)
  | '%' :: a :: b :: rest => do
    let high ← Text.digit? 16 a
    let low ← Text.digit? 16 b
    let (bytes, rest) ← percentBytes? rest
    return ((high * 16 + low).toUInt8 :: bytes, rest)
  | '%' :: _ => none
  | rest => some ([], rest)

/-- Decodes the bytes behind percent signs in a text, which must be characters in UTF-8. -/
def unpercent? : (fuel : Nat) → List Char → Option (List Char)
  | 0, _ => none
  | _ + 1, [] => some []
  | fuel + 1, '%' :: rest => do
    let (bytes, rest) ← percentBytes? ('%' :: rest)
    let text ← String.fromUTF8? ⟨bytes.toArray⟩
    let others ← unpercent? fuel rest
    return text.toList ++ others
  | fuel + 1, c :: rest => (unpercent? fuel rest).map (c :: ·)

namespace Cursor

/-- Reads a name that must not be empty. -/
def word? (cursor : Cursor) : Option (String × Cursor) :=
  let (name, next) := cursor.span isNameChar
  if name.isEmpty then none else some (String.ofList name, next)

/-- Reads the name of an anchor or alias, behind its mark. -/
def name? (cursor : Cursor) : Option (String × Cursor) := do
  let (name, next) ← cursor.advance.word?
  let ends := atGap next.rest || (next.rest.head?.map "?:,]\x7d%@`".toList.contains).getD false
  if ends then some (name, next) else none

/-- Reads the characters of a tag, of which there must be some. -/
def tagText? (cursor : Cursor) : Option (String × Cursor) := do
  let (text, next) := cursor.span isTagChar
  let text ← if text.isEmpty then none else unpercent? (text.length + 1) text
  return (String.ofList text, next)

/-- Reads a handle of tags: two exclamation marks with letters between them. -/
def handle? (cursor : Cursor) : Option (String × Cursor) :=
  match cursor.rest with
  | '!' :: rest =>
    if rest.head? == some ' ' then some ("!", cursor.advance)
    else
      let (name, next) := cursor.advance.span isNameChar
      match next.rest with
      | '!' :: _ => some ("!" ++ String.ofList name ++ "!", next.advance)
      | _ => none
  | _ => none

/-- Is there an exclamation mark before the next blank? -/
def hasHandle (rest : List Char) : Bool :=
  (rest.takeWhile fun c => !(c == ' ' || isBreak c)).contains '!'

/-- Reads a tag whose exclamation mark stands at the cursor. -/
def tag? (cursor : Cursor) : Option (TagName × Cursor) := do
  let (name, next) ←
    match cursor.rest with
    | _ :: '<' :: _ => do
      let (suffix, next) ← (cursor.advanceBy 2).tagText?
      match next.rest with
      | '>' :: _ => some (({ handle := none, suffix } : TagName), next.advance)
      | _ => none
    | _ :: rest =>
      if atGap rest then some ({ handle := none, suffix := "!" }, cursor.advance)
      else if hasHandle rest then do
        let (handle, next) ← cursor.handle?
        let (suffix, next) ← next.tagText?
        some ({ handle := some handle, suffix }, next)
      else do
        let (suffix, next) ← cursor.advance.tagText?
        some ({ handle := some "!", suffix }, next)
    | [] => none
  if atBlank next.rest then some (name, next) else none

/-- Reads a number that a directive gives. -/
def directiveNumber? (cursor : Cursor) : Option (Nat × Cursor) :=
  let (digits, next) := cursor.span Text.isDigit
  (Text.natural? 10 digits).map fun n => (n, next)

/-- Reads the version of a document: two numbers with a point between them. -/
def version? (cursor : Cursor) : Option (Directive × Cursor) := do
  let (major, next) ← (cursor.skipWhile (· == ' ')).directiveNumber?
  match next.rest with
  | '.' :: _ =>
    let (_, next) ← next.advance.directiveNumber?
    if atBlank next.rest then some (.version major, next) else none
  | _ => none

/-- Reads what a handle of tags stands for. -/
def handleDirective? (cursor : Cursor) : Option (Directive × Cursor) := do
  let (handle, next) ← (cursor.skipWhile (· == ' ')).handle?
  if next.rest.head? == some ' ' then
    let (expansion, next) ← (next.skipWhile (· == ' ')).tagText?
    if atBlank next.rest then some (.handle handle expansion, next) else none
  else none

/-- Reads a directive whose percent sign stands at the cursor. -/
def directive? (cursor : Cursor) : Option (Directive × Cursor) := do
  let (name, next) ← cursor.advance.word?
  if atBlank next.rest then
    let (directive, next) ←
      if name = "YAML" then next.version?
      else if name = "TAG" then next.handleDirective?
      else some (.other, next.skipWhile (!isBreak ·))
    let next ← next.endLine?
    some (directive, next)
  else none

end Cursor

end PrimeReasoner.Yaml
