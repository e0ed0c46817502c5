import PrimeReasoner.Derivation
import PrimeReasoner.Knowledge

/-!
# The search for a derivation

A goal is established backwards, from the goal to what is stored. It may be stored itself; a
statement about a category may yield it; an implication may yield it; or, for the relations `is`
and `part of`, a stored fact may lead one step closer. The ways are tried in this order, and within
each in the order in which facts and rules came.

The search visits no goal twice: a goal met again, anywhere in the search, is refused as circular.
It goes no deeper than a limit: a goal below it is refused as too deep. It also stops altogether
when it would need more levels than it was given.

* `Trail` is what the search carries along: the encoder, the goals visited, the encodings of goals
  that were met again, and counters.
* `viaQuantified`, `viaStandard` and `viaChain` are the ways to establish a goal from subgoals; they
  take the procedure that decides subgoals as an argument.
* `expand` tries all ways on one goal, `decideGoal` guards it against circles and depth.
-/

namespace PrimeReasoner

/-- The work done in a search. -/
structure Effort where
  /-- Goals for which all ways were open. -/
  expanded : Nat := 0
  /-- Goals met again. -/
  cycles : Nat := 0
  /-- Goals below the limit. -/
  cutoffs : Nat := 0
  /-- The depth of the deepest goal. -/
  deepest : Nat := 0
deriving DecidableEq, Repr

/-- What the search carries along. -/
structure Trail where
  /-- The encoder, which may learn new concepts. -/
  encoder : Encoder
  /-- The phrases of the goals visited. -/
  visited : List String := []
  /-- The encodings of the goals that were met again. -/
  looped : List Nat := []
  /-- The work done so far. -/
  effort : Effort := {}

/-- Why a search stops without a verdict. -/
inductive Halt where
  /-- A goal has an empty concept. -/
  | encoding (error : EncodingError)
  /-- There are no levels left. -/
  | outOfLevels
deriving DecidableEq, Repr

/-- A step of the search. The trail survives a halt. -/
abbrev Search := ExceptT Halt (StateM Trail)

namespace Search

/-- The encoding of a goal; its concepts are entered into the table. -/
def encode (goal : Fact) : Search Nat := ExceptT.mk fun trail =>
  match (Encoder.encodeFact goal).run.run trail.encoder with
  | (.ok encoding, encoder) => (.ok encoding, { trail with encoder })
  | (.error error, encoder) => (.error (.encoding error), { trail with encoder })

/-- The fact of an encoding. -/
def decode (encoding : Int) : Search (Option Fact) := ExceptT.mk fun trail =>
  let (fact, encoder) := (Encoder.decodeFact encoding).run trail.encoder
  (.ok fact, { trail with encoder })

/-- Notes the depth of a goal. -/
def noteDepth (depth : Nat) : Search Unit := modify fun trail =>
  { trail with effort.deepest := max trail.effort.deepest depth }

/-- Notes that a goal with the given encoding was met again. -/
def noteCycle (encoding : Nat) : Search Unit := modify fun trail =>
  { trail with looped := encoding :: trail.looped, effort.cycles := trail.effort.cycles + 1 }

/-- Notes that a goal is visited. -/
def noteVisit (phrase : String) : Search Unit := modify fun trail =>
  { trail with visited := phrase :: trail.visited }

/-- Notes that a goal lies too deep. -/
def noteCutoff : Search Unit := modify fun trail =>
  { trail with effort.cutoffs := trail.effort.cutoffs + 1 }

/-- Notes that all ways are tried on a goal. -/
def noteExpansion : Search Unit := modify fun trail =>
  { trail with effort.expanded := trail.effort.expanded + 1 }

end Search

/-! ## Ways to establish a goal

Each way runs through the facts or rules and stops at the first success. The argument `prove`
decides a subgoal one level down. -/

/-- Through statements about a category: the goal has the statement's predicate and property, and
its subject is a member. -/
def viaQuantified (prove : Fact → Search Verdict) (goal : Fact) :
    List EncodedRule → Search (Option Derivation)
  | [] => return none
  | .quantified quantifier _ categoryPrime propertyPrime predicatePrime _ _ :: rules => do
    let encoder := (← get).encoder
    let category := encoder.conceptOf categoryPrime
    let property := encoder.conceptOf propertyPrime
    if goal.predicate = encoder.conceptOf predicatePrime ∧ goal.object = property then
      match ← prove (Fact.of goal.subject "is" category) with
      | .proved membership =>
        return some (.quantified goal quantifier category property membership)
      | .refused _ => viaQuantified prove goal rules
    else viaQuantified prove goal rules
  | _ :: rules => viaQuantified prove goal rules

/-- Establishes the facts of all the encodings, in order, up to the first one that fails. -/
def proveAll (prove : Fact → Search Verdict) : List Int → Search (Option (List Derivation))
  | [] => return some []
  | encoding :: encodings => do
    match ← Search.decode encoding with
    | none => return none
    | some condition =>
      match ← prove condition with
      | .refused _ => return none
      | .proved derivation =>
        return (← proveAll prove encodings).map (derivation :: ·)

/-- Through implications whose conclusion has the goal's encoding. -/
def viaStandard (prove : Fact → Search Verdict) (goal : Fact) (encoding : Nat) :
    List EncodedRule → Search (Option Derivation)
  | [] => return none
  | .standard conditions conclusion :: rules => do
    if conclusion = encoding then
      match ← proveAll prove conditions with
      | some derivations => return some (.implied goal derivations)
      | none => viaStandard prove goal encoding rules
    else viaStandard prove goal encoding rules
  | _ :: rules => viaStandard prove goal encoding rules

/-- Through stored facts about the goal's subject with the goal's predicate. -/
def viaChain (prove : Fact → Search Verdict) (goal : Fact) :
    List Fact → Search (Option Derivation)
  | [] => return none
  | stored :: facts => do
    if stored.subject = goal.subject ∧ stored.predicate = goal.predicate then
      match ← prove (Fact.of stored.object goal.predicate goal.object) with
      | .proved rest => return some (.chained goal stored.object rest)
      | .refused _ => viaChain prove goal facts
    else viaChain prove goal facts

/-- The relations that may be followed from fact to fact. -/
def isTransitive (predicate : String) : Bool := predicate = "is" || predicate = "part of"

/-- The verdict of the first way that succeeds, or else of what comes after it. -/
def orElse (way : Search (Option Derivation)) (next : Search Verdict) : Search Verdict := do
  match ← way with
  | some derivation => return .proved derivation
  | none => next

/-- The reason why no way led to the goal. A cutoff since the goal was opened leaves the question
open, so it comes first; a circle counts only if it went through a goal with this encoding. -/
def refusalFor (encoding cutoffsBefore : Nat) (trail : Trail) : Refusal :=
  if cutoffsBefore < trail.effort.cutoffs then .tooDeep
  else if trail.looped.contains encoding then .circular
  else .underivable

/-- Tries all ways on a goal. -/
def expand (prove : Fact → Search Verdict) (knowledge : Knowledge) (goal : Fact)
    (encoding : Nat) : Search Verdict := do
  let cutoffsBefore := (← get).effort.cutoffs
  if knowledge.holds encoding then return .proved (.direct goal)
  else
    orElse (viaQuantified prove goal knowledge.rules) <|
    orElse (viaStandard prove goal encoding knowledge.rules) <|
    orElse (if isTransitive goal.predicate then viaChain prove goal knowledge.facts
      else return none) <| do
    return .refused (refusalFor encoding cutoffsBefore (← get))

/-- Decides a goal at the given depth, with the given number of levels left. -/
def decideGoal (knowledge : Knowledge) (limit : Int) :
    (levels depth : Nat) → (goal : Fact) → Search Verdict
  | 0, _, _ => throw .outOfLevels
  | levels + 1, depth, goal => do
    let encoding ← Search.encode goal
    Search.noteDepth depth
    if (← get).visited.contains goal.text then do
      Search.noteCycle encoding
      return .refused .circular
    else do
      Search.noteVisit goal.text
      if limit < depth then do
        Search.noteCutoff
        return .refused .tooDeep
      else do
        Search.noteExpansion
        expand (decideGoal knowledge limit levels (depth + 1)) knowledge goal encoding

end PrimeReasoner
