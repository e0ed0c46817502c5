/-!
# The sieve

The primes up to a bound, found all at once. A table holds a mark for every number up to the bound.
All numbers from two on start out marked; then, for every number that is still marked when its turn
comes, its multiples from its square on lose their mark. Multiples below the square have lost it
already, because they have a smaller factor, and numbers whose square lies beyond the bound have
nothing left to strike out.

* `strike` removes the marks of the multiples of one number.
* `sieve` runs through all numbers.
* `primesUpTo` lists the numbers that keep their mark.
-/

namespace PrimeReasoner.Prime

/-- Removes the marks of `i * i`, `i * i + i`, … up to the end of the table. -/
def strike (marks : Array Bool) (i : Nat) : Array Bool :=
  (List.range' (i * i) ((marks.size - i * i + (i - 1)) / i) i).foldl
    (fun marks j => marks.setIfInBounds j false) marks

/-- Strikes out the multiples of `i` if `i` is still marked and its square is in the table. -/
def sieveStep (marks : Array Bool) (i : Nat) : Array Bool :=
  if i * i < marks.size && marks.getD i false then strike marks i else marks

/-- All numbers up to `limit` marked, except zero and one. -/
def fullTable (limit : Nat) : Array Bool :=
  ((Array.replicate (limit + 1) true).setIfInBounds 0 false).setIfInBounds 1 false

/-- The table in which exactly the primes up to `limit` are marked. -/
def sieve (limit : Nat) : Array Bool :=
  (limit + 1).fold (fun i _ marks => sieveStep marks i) (fullTable limit)

/-- The primes up to and including `limit`, in ascending order. -/
def primesUpTo (limit : Nat) : List Nat :=
  let marks := sieve limit
  (List.range (limit + 1)).filter fun i => marks.getD i false

end PrimeReasoner.Prime
