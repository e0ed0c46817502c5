import Mathlib.Logic.Function.Iterate
import PrimeReasoner.Proofs.Prime.Sequence

/-!
# Trial division comes to an end

`isPrime` goes on to larger and larger candidates.  This file takes that loop apart into rounds, for an integer of
any sign, and says when it is over and what has then been decided.

**Rounds.**  A trial division (`Trial`) either has a candidate to try next or has come to an answer.  Small integers and
those that two or three divides are decided at once (`Trial.start`); from then on a round tries one pair of
candidates (`Trial.round`).  Nothing happens any more once there is an answer (`Trial.iterate_decided`).

**The bound.**  The candidate grows by six in each round, so after `k` rounds it exceeds the root if
`n < (i + 6 * k) ^ 2`; one more round notices that (`Trial.iterate_trying`).  Starting at five, a sixth of the root is
enough (`lt_candidate_sq`), however large the integer.

**The answer** is that of `isPrime`, which is right (`isPrime_iff`).  A source of primes gives the same one from memory.
-/

namespace PrimeReasoner.Prime

/-- Where a trial division stands. -/
inductive Trial where
  /-- The candidate and the number two above it come next. -/
  | trying (candidate : ℕ)
  /-- It is known whether the integer is prime. -/
  | decided (answer : Bool)
deriving DecidableEq, Repr

namespace Trial

/-- What is seen without any candidate. -/
def start (n : ℤ) : Trial :=
  if n ≤ 1 then decided false
  else if n ≤ 3 then decided true
  else if n % 2 = 0 ∨ n % 3 = 0 then decided false
  else trying 5

/-- One round: beyond the root there is nothing left to try, and a divisor settles the matter. -/
def round (n : ℤ) : Trial → Trial
  | trying i =>
    if n < i * i then decided true
    else if n % i = 0 ∨ n % (i + 2) = 0 then decided false
    else trying (i + 6)
  | decided answer => decided answer

/-- **An answer stands.** -/
lemma iterate_decided (n : ℤ) (answer : Bool) (rounds : ℕ) :
    (round n)^[rounds] (decided answer) = decided answer :=
  Function.iterate_fixed rfl rounds

/-- Either the answer is clear at once, or the integer is above three and the loop is asked. -/
lemma start_cases (n : ℤ) :
    start n = decided (isPrime n.toNat) ∨
      start n = trying 5 ∧ 3 < n ∧ isPrime n.toNat = hasNoDivisorFrom n.toNat 5 := by
  by_cases hone : n ≤ 1
  · have hone' : n.toNat ≤ 1 := by omega
    exact .inl (by rw [start, if_pos hone, isPrime, if_pos hone'])
  have hone' : ¬ n.toNat ≤ 1 := by omega
  by_cases hthree : n ≤ 3
  · have hthree' : n.toNat ≤ 3 := by omega
    exact .inl (by rw [start, if_neg hone, if_pos hthree, isPrime, if_neg hone', if_pos hthree'])
  have hthree' : ¬ n.toNat ≤ 3 := by omega
  rw [start, if_neg hone, if_neg hthree, isPrime, if_neg hone', if_neg hthree']
  have hparts : (n % 2 = 0 ∨ n % 3 = 0) ↔
      (decide (n.toNat % 2 = 0) || decide (n.toNat % 3 = 0)) = true := by
    simp only [Bool.or_eq_true, decide_eq_true_eq]
    omega
  by_cases hdivides : n % 2 = 0 ∨ n % 3 = 0
  · exact .inl (by rw [if_pos hdivides, if_pos (hparts.mp hdivides)])
  · refine .inr ⟨by rw [if_neg hdivides], by omega, ?_⟩
    rw [if_neg (hparts.not.mp hdivides)]

lemma round_natCast (n i : ℕ) :
    round n (trying i) =
      if n < i * i then decided true
      else if n % i = 0 ∨ n % (i + 2) = 0 then decided false
      else trying (i + 6) := by
  unfold round
  norm_cast

/-- One round does what one turn of the loop does: there is an answer, or the loop goes on with the next candidate. -/
lemma round_trying (n i : ℕ) :
    round n (trying i) = decided (hasNoDivisorFrom n i) ∨
      i * i ≤ n ∧ round n (trying i) = trying (i + 6) ∧
        hasNoDivisorFrom n i = hasNoDivisorFrom n (i + 6) := by
  rw [round_natCast, hasNoDivisorFrom]
  by_cases hroot : i * i ≤ n
  · rw [if_neg (Nat.not_lt.mpr hroot), dif_pos hroot]
    by_cases hdivides : n % i = 0 ∨ n % (i + 2) = 0
    · exact .inl (by simp [hdivides])
    · exact .inr ⟨hroot, by rw [if_neg hdivides], by simp [hdivides]⟩
  · exact .inl (by rw [if_pos (Nat.lt_of_not_le hroot), dif_neg hroot])

/-- **The run of rounds**, by induction on their number: once the candidate has passed the root, there is an answer. -/
lemma iterate_trying (n i k : ℕ) (hbeyond : n < (i + 6 * k) * (i + 6 * k)) :
    (round n)^[k + 1] (trying i) = decided (hasNoDivisorFrom n i) := by
  induction k generalizing i with
  | zero =>
      rcases round_trying n i with hdone | ⟨hroot, -, -⟩
      · simpa using hdone
      · exact absurd hbeyond (by simpa using hroot)
  | succ k ih =>
      rw [Function.iterate_succ_apply]
      rcases round_trying n i with hdone | ⟨-, hnext, hsame⟩
      · -- the remaining rounds leave the answer alone
        rw [hdone, iterate_decided]
      · have hshift : i + 6 * (k + 1) = i + 6 + 6 * k := by omega
        rw [hshift] at hbeyond
        rw [hnext, hsame]
        exact ih (i + 6) hbeyond

end Trial

/-- A sixth of the root leads from five beyond the root. -/
lemma lt_candidate_sq (n : ℕ) :
    n < (5 + 6 * ((n.sqrt + 1) / 6)) * (5 + 6 * ((n.sqrt + 1) / 6)) := by
  have hroot : n < (n.sqrt + 1) * (n.sqrt + 1) := Nat.lt_succ_sqrt n
  have hle : n.sqrt + 1 ≤ 5 + 6 * ((n.sqrt + 1) / 6) := by omega
  exact hroot.trans_le (Nat.mul_le_mul hle hle)

/-- **Trial division decides primality.**  Of every integer, whatever its sign and size, one round more than a sixth of
its root leads to an answer, and the answer is yes exactly if the integer is a prime number.  A source of primes gives
that answer too, in whatever state it is. -/
theorem decided_by_trial (n : ℤ) :
    (Trial.round n)^[(n.toNat.sqrt + 1) / 6 + 1] (Trial.start n) = .decided (isPrime n.toNat) ∧
      (isPrime n.toNat = true ↔ ∃ p : ℕ, p.Prime ∧ n = p) ∧
      ∀ (limit : ℤ) (requests : List Request),
        (((Source.ofLimit limit).serveAll requests).isPrime n).1 = isPrime n.toNat := by
  refine ⟨?_, ?_, fun limit requests => ?_⟩
  · rcases Trial.start_cases n with hclear | ⟨htrying, hlarge, hloop⟩
    · rw [hclear, Trial.iterate_decided]
    · have hrun := Trial.iterate_trying n.toNat 5 _ (lt_candidate_sq n.toNat)
      rw [Int.toNat_of_nonneg (by omega)] at hrun
      rw [htrying, hloop, hrun]
  · rw [isPrime_iff, prime_toNat_iff]
  · have hsource := ((Source.sound_serveAll limit requests).isPrime n).1
    rw [Bool.eq_iff_iff, hsource, isPrime_iff]

end PrimeReasoner.Prime
