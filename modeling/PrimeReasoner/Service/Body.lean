import PrimeReasoner.Text.Blank

/-!
# Bodies of requests

A request to learn carries a text, and a request to answer carries a question. Either is a field of what
the body holds.

* `Wanted` says which field it is, and `Wanted.check` what its text has to be like.
* `BodyFault` lists what may be wrong with a body, in the order in which it is looked for, and `Flaw` why
  a complaint, which quotes what was given, cannot be made.
-/

namespace PrimeReasoner

/-- What the body of a request has to carry. -/
inductive Wanted where
  /-- A text to learn from. -/
  | text
  /-- A question. -/
  | question
deriving DecidableEq, Repr

namespace Wanted

/-- The name of the field. -/
def field : Wanted → String
  | .text => "text"
  | .question => "question"

/-- What the field is called in messages. -/
def title : Wanted → String
  | .text => "Text"
  | .question => "Question"

/-- The greatest number of characters, blanks at the ends included. -/
def maxLength : Wanted → Nat
  | .text => 100000
  | .question => 10000

end Wanted

/-- What is wrong with a body. -/
inductive BodyFault where
  /-- There is none. -/
  | empty
  /-- Its characters cannot be made out, or it is too much to read. -/
  | unreadable
  /-- It is not JSON; the offset says where that shows. -/
  | notJson (offset : Nat)
  /-- It is not an object. -/
  | notObject
  /-- The object lacks the field. -/
  | missing
  /-- The field is not a text, or no whole one. -/
  | notText
  /-- The text has no characters. -/
  | tooShort
  /-- The text has too many characters. -/
  | tooLong
  /-- The text has nothing but blanks. -/
  | blank
deriving DecidableEq, Repr

/-- Why a value cannot be quoted. -/
inductive Flaw where
  /-- There is a number in it that is not finite. -/
  | notFinite
  /-- There is something in it that is no text. -/
  | torn
deriving DecidableEq, Repr

/-- What is wrong with a body, and why it cannot be told. -/
structure Rejection where
  /-- What is wrong. -/
  fault : BodyFault
  /-- Why what was given cannot be quoted, if it cannot. -/
  flaw : Option Flaw := none
deriving DecidableEq, Repr

namespace Wanted

/-- Checks the text of the field, and trims it. -/
def check (wanted : Wanted) (value : String) : Except Rejection String :=
  let trimmed := Text.trim value.toList
  if value.isEmpty then .error { fault := .tooShort }
  else if wanted.maxLength < value.length then .error { fault := .tooLong }
  else if trimmed.isEmpty then .error { fault := .blank }
  else .ok (String.ofList trimmed)

end Wanted

end PrimeReasoner
