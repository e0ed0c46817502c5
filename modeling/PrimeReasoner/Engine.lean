import PrimeReasoner.Machine
import PrimeReasoner.Search

/-!
# The reasoning engine

The engine answers goals over some knowledge and keeps account of the work. It remembers nothing
else from one goal to the next.

* `Engine` holds the machine that it runs on, the configured depth and the account.
* `Engine.deduce` answers a goal. It fails only if a goal has an empty concept or if the configured
  depth is not a number, and then the account stays as it was.
* `Statistics` is the account: how many goals were answered, how many of them with yes, and the sum
  of the work.
-/

namespace PrimeReasoner

/-- The work of two searches together. -/
def Effort.merge (a b : Effort) : Effort where
  expanded := a.expanded + b.expanded
  cycles := a.cycles + b.cycles
  cutoffs := a.cutoffs + b.cutoffs
  deepest := max a.deepest b.deepest

/-- The account of an engine. -/
structure Statistics where
  /-- Goals answered. -/
  deductions : Nat := 0
  /-- Goals answered with yes. -/
  successes : Nat := 0
  /-- The work of all searches. -/
  effort : Effort := {}
deriving DecidableEq, Repr

/-- The account after one more search. -/
def Statistics.record (statistics : Statistics) (effort : Effort) (verdict : Verdict) :
    Statistics where
  deductions := statistics.deductions + 1
  successes := if verdict.holds then statistics.successes + 1 else statistics.successes
  effort := statistics.effort.merge effort

/-- A reasoning engine. -/
structure Engine where
  /-- The machine that it runs on. -/
  machine : Machine
  /-- The configured depth limit; nothing stands for the default. -/
  maxDepth : Setting := .null
  /-- The account. -/
  statistics : Statistics := {}

/-- Why a goal could not be answered. -/
inductive DeductionError where
  /-- A goal of the search has an empty concept. -/
  | encoding (error : EncodingError)
  /-- The configured depth is of a kind that cannot be compared with a depth. -/
  | incomparableDepth (kind : String)
deriving DecidableEq, Repr

namespace DeductionError

/-- What went wrong inside. -/
def cause : DeductionError → String
  | .encoding error => error.message
  | .incomparableDepth kind => s!"'>' not supported between instances of 'int' and '{kind}'"

/-- The text of the error. -/
def message (error : DeductionError) : String := s!"Deduction failed: {error.cause}"

end DeductionError

namespace Engine

/-- The depth limit in force, as configured. -/
def depthLimit (engine : Engine) : Setting :=
  match engine.maxDepth with
  | .scalar .null => .int defaultDepth
  | setting => setting

/-- The deepest of so many levels that is not beyond a limit. No level is beyond infinity, nor beyond
what is no number; all are beyond the negative infinity. -/
def deepestWithin (levels : Nat) : Number → Int
  | .whole limit => limit
  | .double (.infinite true) => -1
  | .double limit => limit.floor?.getD levels

/-- The deepest level that is not beyond the limit in force. -/
def depthBound (engine : Engine) : Except DeductionError Int :=
  match engine.depthLimit.number? with
  | some limit => .ok (deepestWithin engine.machine.levels limit)
  | none => .error (.incomparableDepth engine.depthLimit.kindName)

/-- Answers a goal over some knowledge whose numbers belong to the encoder. -/
def deduce (engine : Engine) (encoder : Encoder) (knowledge : Knowledge) (goal : Fact) :
    Except DeductionError Verdict × Engine × Encoder :=
  match engine.depthBound with
  | .error error =>
    match (Encoder.encodeFact goal).run.run encoder with
    | (.ok _, encoder) => (.error error, engine, encoder)
    | (.error error, encoder) => (.error (.encoding error), engine, encoder)
  | .ok limit =>
    match (decideGoal knowledge limit engine.machine.levels 0 goal).run.run { encoder } with
    | (.ok verdict, trail) =>
      let statistics := engine.statistics.record trail.effort verdict
      (.ok verdict, { engine with statistics }, trail.encoder)
    | (.error .outOfLevels, trail) =>
      let verdict := .refused .outOfLevels
      let effort := { trail.effort with cutoffs := trail.effort.cutoffs + 1 }
      let statistics := engine.statistics.record effort verdict
      (.ok verdict, { engine with statistics }, trail.encoder)
    | (.error (.encoding error), trail) => (.error (.encoding error), engine, trail.encoder)

/-- The engine with an empty account. -/
def resetStatistics (engine : Engine) : Engine := { engine with statistics := {} }

end Engine

end PrimeReasoner
