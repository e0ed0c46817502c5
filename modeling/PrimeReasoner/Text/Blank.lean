import PrimeReasoner.Text.CharSet

/-!
# White space

Which characters count as blank, and the two things done with them: trimming the ends of a text
and cutting it into words.

* `isBlank` is the class: the ASCII controls from tab to carriage return and from the file to the
  unit separator, the next-line control, and every space, line and paragraph separator.
* `trim` drops blanks at both ends.
* `splitWhere` cuts at every character of a class, `words` keeps the non-empty pieces between
  blanks.
-/

namespace PrimeReasoner.Text

/-- The white space characters. -/
def blanks : CharSet := [
    ⟨0x9, 0xD⟩, ⟨0x1C, 0x20⟩, ⟨0x85, 0x85⟩, ⟨0xA0, 0xA0⟩, ⟨0x1680, 0x1680⟩, ⟨0x2000, 0x200A⟩,
    ⟨0x2028, 0x2029⟩, ⟨0x202F, 0x202F⟩, ⟨0x205F, 0x205F⟩, ⟨0x3000, 0x3000⟩]

/-- Is the character white space? -/
def isBlank (c : Char) : Bool := blanks.contains c

/-- The text without its leading blanks. -/
def trimStart (s : List Char) : List Char := s.dropWhile isBlank

/-- The text without its trailing blanks. -/
def trimEnd (s : List Char) : List Char := (s.reverse.dropWhile isBlank).reverse

/-- The text without blanks at either end. -/
def trim (s : List Char) : List Char := trimEnd (trimStart s)

/-- Puts a character in front of the first piece of a cut text. -/
def consFirst (c : Char) : List (List Char) → List (List Char)
  | [] => [[c]]
  | piece :: pieces => (c :: piece) :: pieces

/-- The pieces between the characters of a class, empty ones included: a text with `n` such
characters has `n + 1` pieces. -/
def splitWhere (p : Char → Bool) (s : List Char) : List (List Char) :=
  s.foldr (fun c pieces => if p c then [] :: pieces else consFirst c pieces) [[]]

@[simp] theorem splitWhere_nil (p : Char → Bool) : splitWhere p [] = [[]] := rfl

theorem splitWhere_cons (p : Char → Bool) (c : Char) (s : List Char) :
    splitWhere p (c :: s) =
      if p c then [] :: splitWhere p s else consFirst c (splitWhere p s) := rfl

/-- The words of a text: its longest runs of characters that are not blank. -/
def words (s : List Char) : List (List Char) :=
  (splitWhere isBlank s).filter fun piece => !piece.isEmpty

end PrimeReasoner.Text
