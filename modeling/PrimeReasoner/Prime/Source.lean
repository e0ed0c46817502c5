import PrimeReasoner.Prime.Sieve
import PrimeReasoner.Prime.Trial
import Std.Data.TreeMap

/-!
# A source of primes

A source hands out the `k`-th prime, decides primality and factors integers. It starts from the
primes up to a bound and finds further ones when they are asked for, one at a time; answers of the
primality test are remembered. What it has been asked is counted.

* `Source` holds the primes known so far, the remembered answers and the counters.
* `Source.isPrime`, `Source.nthPrime` and `Source.factorize` answer and give the source afterwards.
* `Source.extend` finds the next prime. There is always a prime between a number and its double, so
  as many candidates as the first candidate's size are enough.
-/

namespace PrimeReasoner.Prime

/-- How often a source has been used, in which way. -/
structure Usage where
  /-- Primality tests carried out. -/
  tests : Nat := 0
  /-- Primality questions answered from memory. -/
  hits : Nat := 0
  /-- Primes found beyond the initial ones. -/
  extensions : Nat := 0
  /-- Integers factored. -/
  factorizations : Nat := 0
deriving DecidableEq, Repr

/-- A source of primes. -/
structure Source where
  /-- The primes known so far, in ascending order from two on. -/
  known : Array Nat
  /-- The answers of the primality test so far. -/
  memo : Std.TreeMap Int Bool := ∅
  /-- What the source has been asked. -/
  usage : Usage := {}

/-- Why a prime cannot be given. -/
inductive PrimeError where
  /-- There is no prime with a negative index. -/
  | negativeIndex (index : Int)
deriving DecidableEq, Repr

/-- The text of the error. -/
def PrimeError.message : PrimeError → String
  | .negativeIndex index => s!"Prime index must be non-negative, got {index}"

namespace Source

/-- The source that knows the primes up to `limit` to begin with. -/
def ofLimit (limit : Int) : Source where
  known := if limit < 2 then #[] else (primesUpTo limit.toNat).toArray

/-- Decides primality, from memory if the same question was asked before. -/
def isPrime (source : Source) (n : Int) : Bool × Source :=
  match source.memo[n]? with
  | some answer =>
    (answer, { source with usage.hits := source.usage.hits + 1 })
  | none =>
    let answer := Prime.isPrime n.toNat
    (answer, { source with
      memo := source.memo.insert n answer
      usage.tests := source.usage.tests + 1 })

/-- The first prime from `candidate` on, among the next `tries` numbers. -/
def firstPrimeFrom (source : Source) : (tries candidate : Nat) → Nat × Source
  | 0, candidate => (candidate, source)
  | tries + 1, candidate =>
    match source.isPrime candidate with
    | (true, source) => (candidate, source)
    | (false, source) => source.firstPrimeFrom tries (candidate + 1)

/-- The number after the largest known prime, or two. -/
def nextCandidate (source : Source) : Nat :=
  match source.known.back? with
  | some largest => largest + 1
  | none => 2

/-- Finds the next prime and adds it to the known ones. -/
def extend (source : Source) : Source :=
  match source.firstPrimeFrom source.nextCandidate source.nextCandidate with
  | (prime, source) =>
    { source with
      known := source.known.push prime
      usage.extensions := source.usage.extensions + 1 }

/-- Finds the given number of further primes. -/
def extendBy (source : Source) : Nat → Source
  | 0 => source
  | count + 1 => source.extend.extendBy count

/-- The prime with the given index, counted from zero. -/
def nth (source : Source) (index : Nat) : Nat × Source :=
  let source := source.extendBy (index + 1 - source.known.size)
  (source.known.getD index 0, source)

/-- The prime with the given index; a negative index is refused. -/
def nthPrime (source : Source) (index : Int) : Except PrimeError Nat × Source :=
  if index < 0 then (.error (.negativeIndex index), source)
  else
    let (prime, source) := source.nth index.toNat
    (.ok prime, source)

end Source

/-- Divides `n` by `p` as often as possible: how often it went, and what is left. -/
def divideOut (p n : Nat) : Nat × Nat :=
  if h : 1 < p ∧ 0 < n ∧ n % p = 0 then
    have : n / p < n := Nat.div_lt_self h.2.1 h.1
    let (count, rest) := divideOut p (n / p)
    (count + 1, rest)
  else (0, n)
termination_by n

namespace Source

/-- Divides `rest` by the known primes from `index` on, behind the factors already `found`. Once
the square of the next prime exceeds what is left, what is left is prime. At most `fuel` primes are
tried; as the primes grow at least as fast as their indices, `rest` of them are enough. -/
def factorsFrom (source : Source) (found : List Nat) :
    (fuel index rest : Nat) → List Nat × Source
  | 0, _, _ => (found, source)
  | fuel + 1, index, rest =>
    if rest ≤ 1 then (found, source)
    else
      let (prime, source) := source.nth index
      if rest < prime * prime then (found ++ [rest], source)
      else
        let (count, rest) := divideOut prime rest
        source.factorsFrom (found ++ List.replicate count prime) fuel (index + 1) rest

/-- The prime factors of `n` in ascending order, with multiplicity; none if `n` is at most one. -/
def factorize (source : Source) (n : Int) : List Nat × Source :=
  if n ≤ 1 then ([], source)
  else
    let source := { source with usage.factorizations := source.usage.factorizations + 1 }
    source.factorsFrom [] n.toNat 0 n.toNat

end Source

/-- The figures of a source. -/
structure Figures where
  /-- How often the source has been used. -/
  usage : Usage
  /-- How many primes are known. -/
  knownPrimes : Nat
  /-- The largest known prime, or zero. -/
  largestKnownPrime : Nat
deriving DecidableEq, Repr

/-- The figures of a source. -/
def Source.figures (source : Source) : Figures where
  usage := source.usage
  knownPrimes := source.known.size
  largestKnownPrime := source.known.back?.getD 0

end PrimeReasoner.Prime
