import PrimeReasoner.Rule
import PrimeReasoner.Text.Split

/-!
# Sentences

English sentences of a few fixed forms are read as facts, rules and questions.

* Statements: "X is Y", "X are Y", "X has Y", "X can Y", "X cannot Y", "X likes Y", "X teaches Y" and
  "[The] X [is] part of [the] Y" (`fact?`).
* Rules: "All X are Y", "All X can Y" and "If A [and B ...][,] then C" (`rule?`).
* Questions: "Is X a Y?", "Is X part of Y?", "Is X Y?", "Are X Y?", "Does X have Y?", "Can X Y?" and
  "Does X like Y?" (`question?`).

A form is recognised by a phrase that occurs exactly once and has something on both sides. Every
reader first tidies its text: small letters, no blanks at the ends, and one closing mark dropped.

A text of several sentences is cut by `sentences`, and `Lesson.read` says what one sentence teaches.
-/

namespace PrimeReasoner.Sentence

open Text

/-- Marks that may close a sentence. -/
def isClosingMark (c : Char) : Bool := ['.', '?', '!', ',', ';'].contains c

/-- The text without its last character if that is a closing mark. -/
def withoutMark (s : List Char) : List Char :=
  match s.getLast? with
  | some c => if isClosingMark c then s.dropLast else s
  | none => s

/-- The text in small letters, without blanks at the ends and without one closing mark. -/
def tidy (s : List Char) : List Char := trim (withoutMark (trim (lower s)))

/-! ## Statements -/

/-- A phrase between subject and object, with the predicate that it stands for. -/
structure Connective where
  /-- The phrase. -/
  phrase : String
  /-- The predicate. -/
  predicate : String

/-- The connectives, in the order in which they are tried. -/
def connectives : List Connective := [
  ⟨" is ", "is"⟩, ⟨" are ", "is"⟩, ⟨" has ", "has"⟩, ⟨" can ", "can"⟩, ⟨" cannot ", "cannot"⟩,
  ⟨" likes ", "likes"⟩, ⟨" teaches ", "teaches"⟩]

/-- The phrase of the relation between a part and its whole. -/
def partPhrase : List Char := " part of ".toList

/-- The fact about two phrases. -/
def relate (predicate : String) (subject object : List Char) : Fact :=
  Fact.of (String.ofList subject) predicate (String.ofList object)

/-- The fact that two phrases are related by a connective. -/
def Connective.read? (connective : Connective) (s : List Char) : Option Fact :=
  (cutOnce connective.phrase.toList s).map fun (subject, object) =>
    relate connective.predicate subject object

/-- The text without an article in front. -/
def withoutArticle (s : List Char) : List Char :=
  match after? "the ".toList s with
  | some rest => trim rest
  | none => s

/-- The text without a verb at its end, as the subject in "X is part of Y". -/
def withoutVerb (s : List Char) : List Char :=
  if " is".toList.isSuffixOf s then trim (s.take (s.length - 3)) else s

/-- Reads "[The] X [is] part of [the] Y". -/
def partFact? (s : List Char) : Option Fact :=
  match cutOnce partPhrase s with
  | none => none
  | some (part, whole) =>
    let part := withoutArticle (withoutVerb part)
    let whole := withoutArticle whole
    if part.isEmpty || whole.isEmpty then none else some (relate "part of" part whole)

/-- Reads a statement. The relation of part and whole is tried first, so that "X is part of Y" is
not read as saying what X is. -/
def fact? (s : List Char) : Option Fact :=
  let text := tidy s
  match partFact? text with
  | some fact => some fact
  | none => connectives.findSome? fun connective => connective.read? text

/-! ## Rules -/

/-- Reads "All X are Y" or "All X can Y" from a tidy text. -/
def quantified? (text : List Char) : Option Rule :=
  match after? "all ".toList text with
  | none => none
  | some rest =>
    match cutOnce " are ".toList rest with
    | some (category, property) =>
      some (Rule.all .universal (String.ofList category) (String.ofList property))
    | none =>
      (cutOnce " can ".toList rest).map fun (category, capability) =>
        Rule.all .capability (String.ofList category) (String.ofList capability)

/-- The phrase between conditions and conclusion: with a comma, if it occurs with one. -/
def thenPhrase (rest : List Char) : List Char :=
  if occursIn ", then ".toList rest then ", then ".toList else " then ".toList

/-- Reads "If A [and B ...][,] then C" from a tidy text. -/
def implication? (text : List Char) : Option Rule :=
  match after? "if ".toList text with
  | none => none
  | some rest =>
    match cutOnce (thenPhrase rest) rest with
    | none => none
    | some (conditions, conclusion) =>
      match (splitAll " and ".toList conditions).mapM fact?, fact? conclusion with
      | some conditions, some conclusion => (Rule.implication conditions conclusion).toOption
      | _, _ => none

/-- Reads a rule. -/
def rule? (s : List Char) : Option Rule :=
  let text := tidy s
  match quantified? text with
  | some rule => some rule
  | none => implication? text

/-! ## Questions -/

/-- The first word is the subject and the others are the object. -/
def subjectFirst? (predicate : String) (s : List Char) : Option Fact :=
  match words s with
  | subject :: first :: more =>
    some (relate predicate subject ([' '].intercalate (first :: more)))
  | _ => none

/-- Reads what follows "is": "X part of Y", "X a Y", "X an Y" or "X Y". -/
def afterIs? (rest : List Char) : Option Fact :=
  if occursIn partPhrase rest then
    (cutOnce partPhrase rest).map fun (part, whole) =>
      relate "part of" (withoutArticle part) (withoutArticle whole)
  else if occursIn " a ".toList rest then
    (cutOnce " a ".toList rest).map fun (subject, object) => relate "is" subject object
  else if occursIn " an ".toList rest then
    (cutOnce " an ".toList rest).map fun (subject, object) => relate "is" subject object
  else subjectFirst? "is" rest

/-- Reads what follows "does": "X have Y" or "X like Y". -/
def afterDoes? (rest : List Char) : Option Fact :=
  match cutOnce " have ".toList rest with
  | some (subject, object) => some (relate "has" subject object)
  | none =>
    (cutOnce " like ".toList rest).map fun (subject, object) => relate "likes" subject object

/-- The ways to open a question, each with the reader of what follows. -/
def openings : List (String × (List Char → Option Fact)) := [
  ("is ", afterIs?), ("are ", subjectFirst? "is"), ("does ", afterDoes?),
  ("can ", subjectFirst? "can")]

/-- Reads a question as the fact that it asks about. -/
def question? (s : List Char) : Option Fact :=
  let text := tidy s
  openings.findSome? fun (opening, read) =>
    (after? opening.toList text).bind fun rest => read (trim rest)

/-! ## Texts of several sentences -/

/-- Marks that separate sentences. -/
def isSeparator (c : Char) : Bool := ['.', '!', '?'].contains c

/-- The pieces of a text between separators; blanks after a separator go with it. -/
def sentences (s : List Char) : List (List Char) :=
  match splitWhere isSeparator s with
  | [] => []
  | piece :: pieces => piece :: pieces.map trimStart

/-- The pieces of a text that are not blank. -/
def statements (s : List Char) : List (List Char) :=
  (sentences s).filter fun piece => !(trim piece).isEmpty

end PrimeReasoner.Sentence

namespace PrimeReasoner

/-- What a sentence teaches. -/
inductive Lesson where
  /-- A rule. -/
  | rule (rule : Rule)
  /-- A fact. -/
  | fact (fact : Fact)
  /-- Nothing, as the sentence is of no known form; it is shown tidied. -/
  | rejected (text : String)
deriving DecidableEq, Repr

namespace Lesson

/-- What one sentence teaches. Rules are tried before facts. -/
def read (sentence : List Char) : Lesson :=
  match Sentence.rule? sentence with
  | some found => .rule found
  | none =>
    match Sentence.fact? sentence with
    | some found => .fact found
    | none => .rejected (String.ofList (Sentence.tidy sentence))

/-- What the sentences of a text teach, in order; blank pieces teach nothing. -/
def readAll (text : String) : List Lesson := (Sentence.statements text.toList).map read

/-- The report on a lesson. -/
def line : Lesson → String
  | .rule added => s!"Added rule: {added.text}"
  | .fact added => s!"Added fact: {added.text}"
  | .rejected text => s!"Failed to parse: \"{text}\""

end Lesson

end PrimeReasoner
