import PrimeReasoner.Encoder

/-!
# Knowledge

What has been learned: facts with their encodings, and encoded rules, each in the order in which
they came. Nothing is ever removed, and repetitions are kept.

* `Knowledge` is the contents at one point in time. As a value it never changes, so it serves as a
  snapshot for a reader.
* `Store` is knowledge together with the encoder that its numbers belong to.
* `Store.addFact` and `Store.addRule` add to the contents, or leave them as they are if the
  encoding fails; `Store.addFacts` adds several facts, such as those of a `Store.chain`.
-/

namespace PrimeReasoner

/-- Facts and rules at one point in time. -/
structure Knowledge where
  /-- The facts, in order of arrival. -/
  facts : List Fact := []
  /-- The encodings of the facts, in the same order. -/
  encodings : List Int := []
  /-- The encoded rules, in order of arrival. -/
  rules : List EncodedRule := []
deriving DecidableEq, Repr

namespace Knowledge

/-- Is there a stored fact with the given encoding? -/
def holds (knowledge : Knowledge) (encoding : Int) : Bool := knowledge.encodings.contains encoding

/-- The knowledge with one more fact. -/
def withFact (knowledge : Knowledge) (fact : Fact) (encoding : Nat) : Knowledge :=
  { knowledge with
    facts := knowledge.facts ++ [fact]
    encodings := knowledge.encodings ++ [(encoding : Int)] }

/-- The knowledge with one more rule. -/
def withRule (knowledge : Knowledge) (rule : EncodedRule) : Knowledge :=
  { knowledge with rules := knowledge.rules ++ [rule] }

/-- The facts as phrases. -/
def factTexts (knowledge : Knowledge) : List String := knowledge.facts.map Fact.text

end Knowledge

/-- Knowledge with the encoder that its numbers belong to. -/
structure Store where
  /-- The encoder. -/
  encoder : Encoder
  /-- The contents. -/
  knowledge : Knowledge := {}

namespace Store

/-- Encodes a fact and adds it. -/
def addFact (store : Store) (fact : Fact) : Except EncodingError Nat × Store :=
  match (Encoder.encodeFact fact).run.run store.encoder with
  | (.ok encoding, encoder) =>
    (.ok encoding, { encoder, knowledge := store.knowledge.withFact fact encoding })
  | (.error error, encoder) => (.error error, { store with encoder })

/-- Encodes what is offered as a rule and adds it. -/
def addRule (store : Store) (proposal : Proposal) : Except EncodingError EncodedRule × Store :=
  match (Encoder.encodeProposal proposal).run.run store.encoder with
  | (.ok rule, encoder) => (.ok rule, { encoder, knowledge := store.knowledge.withRule rule })
  | (.error error, encoder) => (.error error, { store with encoder })

/-- Adds facts in order, up to the first one that cannot be encoded. -/
def addFacts (store : Store) : List Fact → Except EncodingError Unit × Store
  | [] => (.ok (), store)
  | fact :: facts =>
    match store.addFact fact with
    | (.ok _, store) => store.addFacts facts
    | (.error error, store) => (.error error, store)

/-- The facts of a chain: the concepts are the stem with the numbers up to `length`, and each is related
to the next one. -/
def chain (stem predicate : String) (length : Nat) : List Fact :=
  (List.range length).map fun index =>
    Fact.of s!"{stem}{index}" predicate s!"{stem}{index + 1}"

/-- Describes several encoded rules, in order. -/
def describeAll : List EncodedRule → StateM Encoder (List String)
  | [] => return []
  | rule :: rules => do
    let text ← Encoder.describe rule
    let texts ← describeAll rules
    return text :: texts

/-- The sentences of the rules of some knowledge. -/
def ruleTexts (store : Store) (knowledge : Knowledge) : List String × Store :=
  let (texts, encoder) := (describeAll knowledge.rules).run store.encoder
  (texts, { store with encoder })

end Store

end PrimeReasoner
