import PrimeReasoner.Fact
import PrimeReasoner.Setting

/-!
# Rules

There are three kinds of rules: everything in a category has a property ("All humans are mortal"),
everything in a category is able to do something ("All birds can fly"), and a conclusion follows
from one or more conditions ("If ... and ..., then ...").

* `Rule` is the closed set of kinds. An implication has a first condition and further ones, so one
  without conditions does not exist; `Rule.implication` refuses to build one.
* `Rule.conditions` and `Rule.conclusion` read every kind as an implication, where the two
  quantified kinds speak about the bound variable `_x_`.
* `Rule.text` is the rule as a sentence.
* `Proposal` is what may be offered to be stored as a rule: a rule, or any other value.
-/

namespace PrimeReasoner

/-- The two kinds of statements about all members of a category. -/
inductive Quantifier where
  /-- All members have a property. -/
  | universal
  /-- All members are able to do something. -/
  | capability
deriving DecidableEq, Repr

namespace Quantifier

/-- The predicate of the facts that the rule yields. -/
def predicate : Quantifier → String
  | .universal => "is"
  | .capability => "can"

/-- The verb of the rule as a sentence. -/
def verb : Quantifier → String
  | .universal => "are"
  | .capability => "can"

end Quantifier

/-- The sentence of a quantified rule. -/
def quantifiedText (quantifier : Quantifier) (category property : String) : String :=
  s!"All {category} {quantifier.verb} {property}"

/-- The sentence of an implication. -/
def implicationText (conditions : List Fact) (conclusion : Fact) : String :=
  let joined := " AND ".intercalate (conditions.map Fact.text)
  s!"IF ({joined}) THEN ({conclusion.text})"

/-- A rule. -/
inductive Rule where
  /-- A statement about all members of a category. -/
  | quantified (quantifier : Quantifier) (category property : String)
  /-- A conclusion that follows from conditions. -/
  | standard (condition : Fact) (further : List Fact) (conclusion : Fact)
deriving DecidableEq, Repr

/-- Why something is not a rule. -/
inductive RuleError where
  /-- An implication without conditions. -/
  | noConditions
deriving DecidableEq, Repr

/-- The text of the error. -/
def RuleError.message : RuleError → String
  | .noConditions => "A standard rule needs at least one condition"

namespace Rule

/-- The bound variable of the quantified rules. -/
def boundVariable : String := "_x_"

/-- The rule about all members of a category, concepts in their normal spelling. -/
def all (quantifier : Quantifier) (category property : String) : Rule :=
  .quantified quantifier (normalize category) (normalize property)

/-- The implication with the given conditions, which must not be empty. -/
def implication : List Fact → Fact → Except RuleError Rule
  | [], _ => .error .noConditions
  | condition :: further, conclusion => .ok (.standard condition further conclusion)

/-- The conditions of a rule, in order. -/
def conditions : Rule → List Fact
  | .quantified _ category _ => [Fact.of boundVariable "is" category]
  | .standard condition further _ => condition :: further

/-- What a rule yields. -/
def conclusion : Rule → Fact
  | .quantified quantifier _ property => Fact.of boundVariable quantifier.predicate property
  | .standard _ _ conclusion => conclusion

/-- The rule as a sentence. -/
def text : Rule → String
  | .quantified quantifier category property => quantifiedText quantifier category property
  | .standard condition further conclusion => implicationText (condition :: further) conclusion

end Rule

/-- What is offered to be encoded or stored as a rule. -/
inductive Proposal where
  /-- A rule. -/
  | rule (rule : Rule)
  /-- A value that is not a rule. -/
  | value (value : Setting)

end PrimeReasoner
