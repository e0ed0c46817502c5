/-!
# Line ends

A text file may end its lines with a line feed, a carriage return, or both in a row. Reading it
turns each of these into one line feed (`unifyLineEnds`). The last one often does not count
(`withoutFinalFeed`).
-/

namespace PrimeReasoner.Text

/-- Replaces every line end by a line feed, behind the reversed text `done`. -/
def unifyOnto (done : List Char) : List Char → List Char
  | [] => done.reverse
  | '\r' :: '\n' :: rest => unifyOnto ('\n' :: done) rest
  | '\r' :: rest => unifyOnto ('\n' :: done) rest
  | c :: rest => unifyOnto (c :: done) rest

/-- The text with every line end replaced by a line feed. -/
def unifyLineEnds (s : String) : String := String.ofList (unifyOnto [] s.toList)

/-- The text without the line feed at its end, if there is one. -/
def withoutFinalFeed (s : List Char) : List Char :=
  if s.getLast? == some '\n' then s.dropLast else s

end PrimeReasoner.Text
