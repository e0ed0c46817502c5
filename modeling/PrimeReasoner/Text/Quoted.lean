import PrimeReasoner.Text.Digit
import PrimeReasoner.Text.Printable

/-!
# Quoted text

Messages show a text that may be empty or blank between quotes, with everything that cannot be
seen written as an escape.

* `quote` encloses a text in single quotes, or in double quotes if it holds a single quote and no
  double one.
* `escape` is the form of one character: the quote mark and the backslash get a backslash, tab and
  line ends their letter, and what has no visible form its code in two, four or eight hexadecimal
  digits.
-/

namespace PrimeReasoner.Text

/-- The escape of a character without a visible form, as short as its code allows. -/
def codeEscape (c : Char) : List Char :=
  if c.toNat < 0x100 then '\\' :: 'x' :: hexDigits 2 c.toNat
  else if c.toNat < 0x10000 then '\\' :: 'u' :: hexDigits 4 c.toNat
  else '\\' :: 'U' :: hexDigits 8 c.toNat

/-- The form of a character between the given quote marks. -/
def escape (mark c : Char) : List Char :=
  if c = mark || c = '\\' then ['\\', c]
  else if c = '\t' then ['\\', 't']
  else if c = '\n' then ['\\', 'n']
  else if c = '\r' then ['\\', 'r']
  else if isPrintable c then [c]
  else codeEscape c

/-- The quote mark that needs the fewest escapes, single quotes being preferred. -/
def quoteMark (s : List Char) : Char :=
  if s.contains '\'' && !s.contains '"' then '"' else '\''

/-- The text between quotes. -/
def quote (s : String) : String :=
  let mark := quoteMark s.toList
  String.ofList (mark :: s.toList.flatMap (escape mark) ++ [mark])

end PrimeReasoner.Text
