/-!
# Trial division

A number is prime if no smaller number above one divides it. It suffices to try divisors up to the
square root, and, once two and three are ruled out, only those of the form `6k - 1` and `6k + 1`.

* `hasNoDivisorFrom` tries `i` and `i + 2`, then goes on six further up.
* `isPrime` decides primality of a natural number.
-/

namespace PrimeReasoner.Prime

/-- Does none of `i`, `i + 2`, `i + 6`, `i + 8`, … divide `n`, as far as the square root? -/
def hasNoDivisorFrom (n i : Nat) : Bool :=
  if h : i * i ≤ n then
    if n % i = 0 || n % (i + 2) = 0 then false else hasNoDivisorFrom n (i + 6)
  else true
termination_by n + 6 - i
decreasing_by
  have := Nat.le_trans (Nat.le_mul_self i) h
  omega

/-- Is the number prime? -/
def isPrime (n : Nat) : Bool :=
  if n ≤ 1 then false
  else if n ≤ 3 then true
  else if n % 2 = 0 || n % 3 = 0 then false
  else hasNoDivisorFrom n 5

end PrimeReasoner.Prime
