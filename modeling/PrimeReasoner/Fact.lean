import PrimeReasoner.Text.Blank
import PrimeReasoner.Text.Lowercase

/-!
# Concepts and facts

A concept is a word or phrase; two spellings that differ only in letter case or in blanks at the
ends are the same concept. A fact says that a subject stands in a relation, its predicate, to an
object.

* `normalize` gives the one spelling under which a concept is known.
* `Fact` is a triple of concepts, built by `Fact.of` so that all three are in that spelling.
* `Fact.text` is the fact as a phrase.
-/

namespace PrimeReasoner

/-- The spelling under which a concept is known: trimmed and in small letters. -/
def normalize (concept : String) : String :=
  String.ofList (Text.lower (Text.trim concept.toList))

/-- A fact: subject, predicate and object. -/
structure Fact where
  /-- What the fact is about. -/
  subject : String
  /-- How the subject is related to the object. -/
  predicate : String
  /-- What the subject is related to. -/
  object : String
deriving DecidableEq, Repr

namespace Fact

/-- The fact about the given concepts, in their normal spelling. -/
def of (subject predicate object : String) : Fact where
  subject := normalize subject
  predicate := normalize predicate
  object := normalize object

/-- The fact as a phrase. -/
def text (fact : Fact) : String := s!"{fact.subject} {fact.predicate} {fact.object}"

end Fact

end PrimeReasoner
