/-!
# Sets of characters

The character classes that the library needs (white space, letters with case, characters that
cannot be shown) are given as lists of code point spans, so that a class is data that can be read,
counted and searched.

* `Span` is an interval of code points, both ends included.
* `CharSet.contains` is membership of a character.
-/

namespace PrimeReasoner.Text

/-- An interval of code points, both ends included. -/
structure Span where
  /-- The smallest code point. -/
  first : Nat
  /-- The largest code point. -/
  last : Nat
deriving DecidableEq, Repr

/-- A set of characters, written as spans of code points. -/
abbrev CharSet := List Span

/-- Does the span hold the code point? -/
def Span.holds (span : Span) (code : Nat) : Bool :=
  span.first ≤ code && code ≤ span.last

/-- Is the character in one of the spans? -/
def CharSet.contains (set : CharSet) (c : Char) : Bool :=
  set.any fun span => span.holds c.toNat

theorem CharSet.contains_iff {set : CharSet} {c : Char} :
    set.contains c = true ↔ ∃ span ∈ set, span.first ≤ c.toNat ∧ c.toNat ≤ span.last := by
  simp [CharSet.contains, Span.holds]

end PrimeReasoner.Text
