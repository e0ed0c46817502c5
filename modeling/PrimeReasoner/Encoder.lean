import PrimeReasoner.Prime.Source
import PrimeReasoner.Rule
import PrimeReasoner.Text.Quoted

/-!
# Numbers for concepts, facts and rules

Every concept is given a prime of its own, in the order in which concepts are first asked for. A
fact is encoded as the product of its three primes and recovered by factoring. The product does not
remember which prime played which part: a decoded fact has its concepts in ascending order of their
primes.

* `Encoder` holds the table of concepts and the source of primes it draws on.
* `Encoder.primeOf`, `Encoder.encodeFact` and `Encoder.encodeRule` give numbers, entering unknown
  concepts into the table. They may fail on an empty concept; what was entered before stays.
* `Encoder.conceptOf`, `Encoder.decodeFact` and `Encoder.describe` read numbers.
-/

namespace PrimeReasoner

/-- Why something cannot be encoded. -/
inductive EncodingError where
  /-- A concept that is blank; it is shown as it was given. -/
  | emptyConcept (given : String)
  /-- A value that is not a rule; its kind is shown. -/
  | unsupportedRule (kind : String)
deriving DecidableEq, Repr

/-- The text of the error. -/
def EncodingError.message : EncodingError → String
  | .emptyConcept given => s!"Cannot encode empty concept: {Text.quote given}"
  | .unsupportedRule kind => s!"Unsupported rule type: {kind}"

/-- An encoded rule. Its numbers are integers of any sign, because a rule may also be made up by
hand; those of rules that were encoded here are primes and products of primes. -/
inductive EncodedRule where
  /-- A statement about all members of a category: the primes of the bound variable, the category,
  the property and the predicate, and the encodings of condition and conclusion. -/
  | quantified (quantifier : Quantifier)
      (variablePrime categoryPrime propertyPrime predicatePrime : Int)
      (condition conclusion : Int)
  /-- An implication: the encodings of its conditions and of its conclusion. -/
  | standard (conditions : List Int) (conclusion : Int)
  /-- Something that is not an encoded rule. -/
  | unrecognised
deriving DecidableEq, Repr

/-- The description of a rule that cannot be read. -/
def unreadableRule : String := "[Rule with unparseable structure]"

/-- A concept with its prime. -/
structure Entry where
  /-- The concept in its normal spelling. -/
  concept : String
  /-- The prime that stands for it. -/
  prime : Nat
deriving DecidableEq, Repr

/-- A table of concepts, in the order in which they were first asked for, with the source that
their primes come from. -/
structure Encoder where
  /-- Where the primes come from. -/
  source : Prime.Source
  /-- The concepts so far. -/
  table : List Entry := []

/-- A computation that may enter concepts into the table and may fail; what was entered before the
failure stays. -/
abbrev Encoding := ExceptT EncodingError (StateM Encoder)

namespace Encoder

/-- The reserved concept of the bound variable of quantified rules. -/
def variableConcept : String := "_variable_"

/-- The prime of a concept in its normal spelling, if it is in the table. -/
def prime? (encoder : Encoder) (concept : String) : Option Nat :=
  (encoder.table.find? fun entry => entry.concept == concept).map Entry.prime

/-- The concept of a prime, if it is in the table. -/
def concept? (encoder : Encoder) (prime : Int) : Option String :=
  (encoder.table.find? fun entry => (entry.prime : Int) == prime).map Entry.concept

/-- Enters a new concept, with the next prime. -/
def enter (encoder : Encoder) (concept : String) : Nat × Encoder :=
  let (prime, source) := encoder.source.nth encoder.table.length
  (prime, { source, table := encoder.table ++ [⟨concept, prime⟩] })

/-- The prime of a concept, which is entered into the table if need be. -/
def primeOf (given : String) : Encoding Nat := do
  let concept := normalize given
  if concept = "" then throw (.emptyConcept given)
  match (← get).prime? concept with
  | some prime => return prime
  | none => modifyGet fun encoder => encoder.enter concept

/-- A new table, in which the bound variable holds the first prime. -/
def ofSource (source : Prime.Source) : Encoder :=
  ((primeOf variableConcept).run.run { source }).2

/-- A new table on a source of its own. -/
def ofLimit (sieveLimit : Int) : Encoder := ofSource (.ofLimit sieveLimit)

/-- The concept of a prime, or a placeholder for a prime that no concept has. -/
def conceptOf (encoder : Encoder) (prime : Int) : String :=
  (encoder.concept? prime).getD s!"Unknown({prime})"

/-- The product of the primes of subject, predicate and object, asked for in this order. -/
def encodeFact (fact : Fact) : Encoding Nat := do
  let subject ← primeOf fact.subject
  let predicate ← primeOf fact.predicate
  let object ← primeOf fact.object
  return subject * predicate * object

/-- The prime factors of a number; the source remembers what it found on the way. -/
def factorize (n : Int) : StateM Encoder (List Nat) :=
  modifyGet fun encoder =>
    let (factors, source) := encoder.source.factorize n
    (factors, { encoder with source })

/-- The fact whose concepts have the three prime factors of the number, in ascending order; none
if the number is not a product of three primes. -/
def decodeFact (n : Int) : StateM Encoder (Option Fact) := do
  match ← factorize n with
  | [subject, predicate, object] =>
    let encoder ← get
    return some (Fact.of (encoder.conceptOf subject) (encoder.conceptOf predicate)
      (encoder.conceptOf object))
  | _ => return none

/-- The encodings of several facts, in order. -/
def encodeFacts : List Fact → Encoding (List Int)
  | [] => return []
  | fact :: facts => do
    let encoding ← encodeFact fact
    let encodings ← encodeFacts facts
    return (encoding : Int) :: encodings

/-- Encodes a rule according to its kind. -/
def encodeRule : Rule → Encoding EncodedRule
  | rule@(.quantified quantifier category property) => do
    let variablePrime ← primeOf variableConcept
    let categoryPrime ← primeOf category
    let propertyPrime ← primeOf property
    let predicatePrime ← primeOf quantifier.predicate
    let condition ← encodeFact (Fact.of Rule.boundVariable "is" category)
    let conclusion ← encodeFact rule.conclusion
    return .quantified quantifier variablePrime categoryPrime propertyPrime predicatePrime
      condition conclusion
  | .standard condition further conclusion => do
    let conditions ← encodeFacts (condition :: further)
    let conclusion ← encodeFact conclusion
    return .standard conditions conclusion

/-- Encodes what is offered as a rule; anything else is refused by its kind. -/
def encodeProposal : Proposal → Encoding EncodedRule
  | .rule rule => encodeRule rule
  | .value value => throw (.unsupportedRule value.kindName)

/-- The facts of several encodings, in order. -/
def decodeFacts : List Int → StateM Encoder (List (Option Fact))
  | [] => return []
  | n :: ns => do
    let fact ← decodeFact n
    let facts ← decodeFacts ns
    return fact :: facts

/-- The sentence of an encoded rule. -/
def describe : EncodedRule → StateM Encoder String
  | .quantified quantifier _ categoryPrime propertyPrime _ _ _ => do
    let encoder ← get
    return quantifiedText quantifier (encoder.conceptOf categoryPrime)
      (encoder.conceptOf propertyPrime)
  | .standard conditions conclusion => do
    let conditions ← decodeFacts conditions
    let conclusion ← decodeFact conclusion
    match conditions.mapM id, conclusion with
    | some conditions, some conclusion => return implicationText conditions conclusion
    | _, _ => return unreadableRule
  | .unrecognised => return unreadableRule

end Encoder

end PrimeReasoner
