import PrimeReasoner.Rule

/-!
# Derivations and verdicts

A goal that follows from what is known is answered with a derivation, and the explanation given to
the reader is that derivation put into words. A goal that does not follow is answered with the
reason why the search gave up.

* `Derivation` is a tree whose nodes are the four ways to establish a goal.
* `Derivation.explanation` puts it into words.
* `Refusal` is a reason for a negative answer, and `Verdict` is either kind of answer.
-/

namespace PrimeReasoner

/-- How a goal follows from what is known. Every node names its goal. -/
inductive Derivation where
  /-- The goal is stored as a fact. -/
  | direct (goal : Fact)
  /-- A statement about all members of a category yields the goal, as its subject is a member. -/
  | quantified (goal : Fact) (quantifier : Quantifier) (category property : String)
      (membership : Derivation)
  /-- An implication yields the goal, as its conditions hold. -/
  | implied (goal : Fact) (conditions : List Derivation)
  /-- A stored fact leads from the goal's subject to a further concept, which is related to the
  goal's object. -/
  | chained (goal : Fact) (link : String) (rest : Derivation)

namespace Derivation

/-- What the derivation establishes. -/
def goal : Derivation → Fact
  | .direct goal | .quantified goal .. | .implied goal _ | .chained goal .. => goal

mutual

/-- The derivation in words. -/
def explanation : Derivation → String
  | .direct goal => s!"Direct fact in knowledge base: {goal.text}"
  | .quantified _ quantifier category property membership =>
    s!"{membership.explanation}, and all {category} {quantifier.verb} {property}"
  | .implied goal conditions =>
    let joined := ", ".intercalate (explanations conditions)
    s!"{joined}, which implies {goal.text}"
  | .chained goal link rest =>
    s!"{goal.subject} {goal.predicate} {link}, and {rest.explanation}"

/-- Several derivations in words, in order. -/
def explanations : List Derivation → List String
  | [] => []
  | derivation :: derivations => derivation.explanation :: explanations derivations

end

end Derivation

/-- Why a goal was not established. -/
inductive Refusal where
  /-- The goal, or one below it, lies deeper than the search may go. -/
  | tooDeep
  /-- The search needed more levels than there are. -/
  | outOfLevels
  /-- The search for the goal led back to it. -/
  | circular
  /-- Nothing that is known yields the goal. -/
  | underivable
deriving DecidableEq, Repr

/-- The reason in words. -/
def Refusal.explanation (goal : Fact) : Refusal → String
  | .tooDeep | .outOfLevels => s!"Maximum reasoning depth exceeded: {goal.text}"
  | .circular => s!"Circular reasoning detected: {goal.text}"
  | .underivable => s!"Could not deduce: {goal.text}"

/-- The answer to a goal. -/
inductive Verdict where
  /-- The goal follows. -/
  | proved (derivation : Derivation)
  /-- The goal was not established. -/
  | refused (reason : Refusal)

namespace Verdict

/-- Does the goal follow? -/
def holds : Verdict → Bool
  | .proved _ => true
  | .refused _ => false

/-- The answer's justification in words. -/
def explanation (goal : Fact) : Verdict → String
  | .proved derivation => derivation.explanation
  | .refused reason => reason.explanation goal

end Verdict

end PrimeReasoner
