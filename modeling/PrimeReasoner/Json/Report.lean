import PrimeReasoner.Json.Value
import PrimeReasoner.Session

/-!
# Answers and figures as JSON values

The form in which a session's answers, its knowledge and its figures are handed to other programs.
Every field of the record has one name in the value, and the fields stand in a fixed order.
-/

namespace PrimeReasoner

/-- An answer as a JSON value. -/
def Answer.json (answer : Answer) : Json := .object [
  ("query", .string answer.question), ("parsed_query", .optional answer.goalText),
  ("answer", .string answer.reply.text), ("explanation", .string answer.explanation)]

/-- What is known as a JSON value. -/
def Summary.json (summary : Summary) : Json := .object [
  ("facts", .strings summary.facts), ("rules", .strings summary.rules)]

/-- The account of an engine as a JSON value. -/
def Statistics.json (statistics : Statistics) : Json := .object [
  ("deductions", .nat statistics.deductions),
  ("successful_deductions", .nat statistics.successes),
  ("goals_expanded", .nat statistics.effort.expanded),
  ("cycles_detected", .nat statistics.effort.cycles),
  ("depth_cutoffs", .nat statistics.effort.cutoffs),
  ("max_depth_reached", .nat statistics.effort.deepest)]

/-- The figures of a source of primes as a JSON value. -/
def Prime.Figures.json (figures : Prime.Figures) : Json := .object [
  ("primality_tests", .nat figures.usage.tests),
  ("cache_hits", .nat figures.usage.hits),
  ("extensions", .nat figures.usage.extensions),
  ("factorizations", .nat figures.usage.factorizations),
  ("known_primes", .nat figures.knownPrimes),
  ("largest_known_prime", .nat figures.largestKnownPrime)]

/-- The figures of a session as a JSON value. -/
def SessionFigures.json (figures : SessionFigures) : Json := .object [
  ("sentences_learned", .nat figures.tally.learned),
  ("sentences_rejected", .nat figures.tally.rejected),
  ("queries", .nat figures.tally.queries),
  ("unparsed_queries", .nat figures.tally.unparsed),
  ("facts", .nat figures.facts),
  ("rules", .nat figures.rules),
  ("concepts", .nat figures.concepts),
  ("reasoning", figures.reasoning.json),
  ("primes", figures.primes.json)]

end PrimeReasoner
