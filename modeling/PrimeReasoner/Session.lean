import PrimeReasoner.Config
import PrimeReasoner.Engine
import PrimeReasoner.Sentence

/-!
# Sessions

A session learns from text and answers questions. It starts knowing nothing; starting over means a
new session with the same configuration on the same machine.

* `Session.start` and `Session.ofConfig` give a fresh session.
* `Session.learn` adds what the sentences of a text teach, and reports on each of them.
* `Session.ask` answers a question with yes, no or unknown, and a justification.
* `Session.summary` lists what has been learned, `Session.reset` starts over.
-/

namespace PrimeReasoner

/-- What a session has been told and asked. -/
structure Tally where
  /-- Sentences that taught a fact or a rule. -/
  learned : Nat := 0
  /-- Sentences of no known form. -/
  rejected : Nat := 0
  /-- Questions answered. -/
  queries : Nat := 0
  /-- Questions of no known form among them. -/
  unparsed : Nat := 0
deriving DecidableEq, Repr

/-- A session. -/
structure Session where
  /-- The options as configured. -/
  config : Config
  /-- The bound of the sieve that the options give. -/
  sieveBound : Int
  /-- What has been learned. -/
  store : Store
  /-- What answers the questions. -/
  engine : Engine
  /-- What has been told and asked. -/
  tally : Tally := {}

/-- The short answer to a question. -/
inductive Reply where
  /-- It follows from what is known. -/
  | yes
  /-- It was not found to follow. -/
  | no
  /-- The question is of no known form. -/
  | unknown
deriving DecidableEq, Repr

/-- The answer as a word. -/
def Reply.text : Reply → String
  | .yes => "Yes"
  | .no => "No"
  | .unknown => "Unknown"

/-- The full answer to a question. -/
structure Answer where
  /-- The question as asked. -/
  question : String
  /-- The fact that it asks about, if it is of a known form. -/
  goal : Option Fact
  /-- What the search for the fact found, if there was one. -/
  verdict : Option Verdict

namespace Answer

/-- The short answer. -/
def reply (answer : Answer) : Reply :=
  match answer.verdict with
  | some verdict => if verdict.holds then .yes else .no
  | none => .unknown

/-- The justification. -/
def explanation (answer : Answer) : String :=
  match answer.goal, answer.verdict with
  | some goal, some verdict => verdict.explanation goal
  | _, _ => "Could not parse the query"

/-- The fact that the question asks about, as a phrase. -/
def goalText (answer : Answer) : Option String := answer.goal.map Fact.text

end Answer

/-- What has been learned, as phrases and sentences. -/
structure Summary where
  /-- The facts. -/
  facts : List String
  /-- The rules. -/
  rules : List String
deriving DecidableEq, Repr

/-- The figures of a session. -/
structure SessionFigures where
  /-- What has been told and asked. -/
  tally : Tally
  /-- Facts stored. -/
  facts : Nat
  /-- Rules stored. -/
  rules : Nat
  /-- Concepts in the table. -/
  concepts : Nat
  /-- The account of the engine. -/
  reasoning : Statistics
  /-- The figures of the source of primes. -/
  primes : Prime.Figures
deriving DecidableEq, Repr

namespace Session

/-- A fresh session on a machine, with the given options, which give the bound of the sieve. -/
def start (machine : Machine) (config : Config) (sieveBound : Int) : Session where
  config
  sieveBound
  store := { encoder := .ofLimit sieveBound }
  engine := { machine, maxDepth := config.maxDepth }

/-- A fresh session on a machine, with the given options. -/
def ofConfig (machine : Machine) (config : Config) : Except ConfigError Session :=
  (PrimeReasoner.sieveBound machine config.sieveLimit).map (start machine config)

/-- A fresh session on the same machine, with the same options. -/
def reset (session : Session) : Session :=
  start session.engine.machine session.config session.sieveBound

/-- Adds what one sentence teaches. -/
def absorb (session : Session) : Lesson → Except EncodingError Unit × Session
  | .rule rule =>
    match session.store.addRule (.rule rule) with
    | (.ok _, store) =>
      (.ok (), { session with store, tally.learned := session.tally.learned + 1 })
    | (.error error, store) => (.error error, { session with store })
  | .fact fact =>
    match session.store.addFact fact with
    | (.ok _, store) =>
      (.ok (), { session with store, tally.learned := session.tally.learned + 1 })
    | (.error error, store) => (.error error, { session with store })
  | .rejected _ => (.ok (), { session with tally.rejected := session.tally.rejected + 1 })

/-- Adds what several sentences teach, in order, up to the first that cannot be encoded. -/
def absorbAll (session : Session) : List Lesson → Except EncodingError Unit × Session
  | [] => (.ok (), session)
  | lesson :: lessons =>
    match session.absorb lesson with
    | (.ok (), session) => session.absorbAll lessons
    | (.error error, session) => (.error error, session)

/-- Learns from a text: one lesson for every sentence in it. -/
def learn (session : Session) (text : String) : Except EncodingError (List Lesson) × Session :=
  let lessons := Lesson.readAll text
  match session.absorbAll lessons with
  | (.ok (), session) => (.ok lessons, session)
  | (.error error, session) => (.error error, session)

/-- Looks for a derivation of a fact from what has been learned. -/
def deduce (session : Session) (goal : Fact) : Except DeductionError Verdict × Session :=
  match session.engine.deduce session.store.encoder session.store.knowledge goal with
  | (result, engine, encoder) => (result, { session with engine, store.encoder := encoder })

/-- Answers a question. -/
def ask (session : Session) (question : String) : Except DeductionError Answer × Session :=
  match Sentence.question? question.toList with
  | none =>
    (.ok ⟨question, none, none⟩, { session with
      tally.queries := session.tally.queries + 1
      tally.unparsed := session.tally.unparsed + 1 })
  | some goal =>
    match session.deduce goal with
    | (.ok verdict, session) =>
      (.ok ⟨question, some goal, some verdict⟩,
        { session with tally.queries := session.tally.queries + 1 })
    | (.error error, session) => (.error error, session)

/-- Lists what has been learned. -/
def summary (session : Session) : Summary × Session :=
  let (rules, store) := session.store.ruleTexts session.store.knowledge
  ({ facts := session.store.knowledge.factTexts, rules }, { session with store })

/-- The figures of the session. -/
def figures (session : Session) : SessionFigures where
  tally := session.tally
  facts := session.store.knowledge.facts.length
  rules := session.store.knowledge.rules.length
  concepts := session.store.encoder.table.length
  reasoning := session.engine.statistics
  primes := session.store.encoder.source.figures

end Session

end PrimeReasoner
