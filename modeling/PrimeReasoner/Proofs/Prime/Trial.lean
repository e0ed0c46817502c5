import Mathlib.Data.Nat.Prime.Basic
import PrimeReasoner.Prime.Trial

/-!
# Trial division decides primality

`isPrime` tries two, three and then only the candidates `6k - 1` and `6k + 1` up to the square root.
Two facts make that enough.

**Residues.**  A prime other than two and three leaves the remainder one or five on division by
six, so it is one of the candidates (`prime_mod_six`).

**The root.**  A number that is not prime has a prime factor whose square it reaches, so the loop
meets it before it stops.  The candidate `i + 2` may lie beyond the root; that never turns a prime
down, because it is still smaller than the number.
-/

namespace PrimeReasoner.Prime

/-- What the loop has tried: every candidate of the progression up to the root, and the number two
above each of them. -/
lemma hasNoDivisorFrom_iff (n i : ℕ) :
    hasNoDivisorFrom n i = true ↔
      ∀ k, (i + 6 * k) * (i + 6 * k) ≤ n → ¬ (i + 6 * k) ∣ n ∧ ¬ (i + 6 * k + 2) ∣ n := by
  fun_induction hasNoDivisorFrom n i with
  | case1 i hroot hdiv =>
      simp only [Bool.or_eq_true, decide_eq_true_eq, ← Nat.dvd_iff_mod_eq_zero] at hdiv
      refine iff_of_false (by simp) fun h => ?_
      obtain ⟨h1, h2⟩ := h 0 (by simpa using hroot)
      rcases hdiv with hdiv | hdiv
      · exact h1 (by simpa using hdiv)
      · exact h2 (by simpa using hdiv)
  | case2 i hroot hdiv ih =>
      simp only [Bool.or_eq_true, decide_eq_true_eq, ← Nat.dvd_iff_mod_eq_zero, not_or] at hdiv
      rw [ih]
      constructor
      · intro h k hk
        cases k with
        | zero => simpa using hdiv
        | succ k =>
            have hshift : i + 6 * (k + 1) = i + 6 + 6 * k := by omega
            rw [hshift] at hk ⊢
            exact h k hk
      · intro h k hk
        have hshift : i + 6 + 6 * k = i + 6 * (k + 1) := by omega
        rw [hshift] at hk ⊢
        exact h (k + 1) hk
  | case3 i hroot =>
      refine iff_of_true rfl fun k hk => absurd hk ?_
      have hle : i * i ≤ (i + 6 * k) * (i + 6 * k) := Nat.mul_le_mul (by omega) (by omega)
      omega

/-- A prime other than two and three is one more or one less than a multiple of six. -/
lemma prime_mod_six {p : ℕ} (hp : p.Prime) (h2 : p ≠ 2) (h3 : p ≠ 3) : p % 6 = 1 ∨ p % 6 = 5 := by
  have hodd : ¬ 2 ∣ p := fun h => h2 ((Nat.prime_dvd_prime_iff_eq Nat.prime_two hp).mp h).symm
  have hthree : ¬ 3 ∣ p := fun h => h3 ((Nat.prime_dvd_prime_iff_eq Nat.prime_three hp).mp h).symm
  omega

/-- **No candidate divides, so the number is prime.** -/
lemma prime_of_no_candidate {n : ℕ} (hn : 3 < n) (h2 : ¬ 2 ∣ n) (h3 : ¬ 3 ∣ n)
    (h : ∀ k, (5 + 6 * k) * (5 + 6 * k) ≤ n → ¬ (5 + 6 * k) ∣ n ∧ ¬ (5 + 6 * k + 2) ∣ n) :
    n.Prime := by
  by_contra hnot
  -- the smallest factor is a candidate within the root
  have hp : n.minFac.Prime := Nat.minFac_prime (by omega)
  have hdvd : n.minFac ∣ n := Nat.minFac_dvd n
  have hsq : n.minFac * n.minFac ≤ n := by
    simpa [sq] using Nat.minFac_sq_le_self (by omega) hnot
  have hne2 : n.minFac ≠ 2 := fun he => h2 (he ▸ hdvd)
  have hne3 : n.minFac ≠ 3 := fun he => h3 (he ▸ hdvd)
  have hpos := hp.two_le
  rcases prime_mod_six hp hne2 hne3 with hmod | hmod
  · obtain ⟨k, hk⟩ : ∃ k, n.minFac = 5 + 6 * k + 2 := ⟨n.minFac / 6 - 1, by omega⟩
    rw [hk] at hdvd hsq
    exact (h k (le_trans (Nat.mul_le_mul (by omega) (by omega)) hsq)).2 hdvd
  · obtain ⟨k, hk⟩ : ∃ k, n.minFac = 5 + 6 * k := ⟨n.minFac / 6, by omega⟩
    rw [hk] at hdvd hsq
    exact (h k hsq).1 hdvd

/-- **No candidate divides a prime**, not even the one beyond the root. -/
lemma no_candidate_of_prime {n : ℕ} (hn : n.Prime) (k : ℕ)
    (hroot : (5 + 6 * k) * (5 + 6 * k) ≤ n) : ¬ (5 + 6 * k) ∣ n ∧ ¬ (5 + 6 * k + 2) ∣ n := by
  have hgrow : 5 * (5 + 6 * k) ≤ (5 + 6 * k) * (5 + 6 * k) := Nat.mul_le_mul_right _ (by omega)
  constructor
  · intro hdvd
    rcases (Nat.dvd_prime hn).mp hdvd with h | h <;> omega
  · intro hdvd
    rcases (Nat.dvd_prime hn).mp hdvd with h | h <;> omega

/-- **Trial division is exact.** -/
theorem isPrime_iff (n : ℕ) : isPrime n = true ↔ n.Prime := by
  unfold isPrime
  split_ifs with h1 h3 hdiv
  · simpa using fun hn : n.Prime => absurd hn.two_le (by omega)
  · simp only [true_iff]
    have : n = 2 ∨ n = 3 := by omega
    rcases this with rfl | rfl
    · exact Nat.prime_two
    · exact Nat.prime_three
  · simp only [Bool.or_eq_true, decide_eq_true_eq, ← Nat.dvd_iff_mod_eq_zero] at hdiv
    refine iff_of_false (by simp) fun hn => ?_
    rcases hdiv with hdiv | hdiv
    · have := (Nat.prime_dvd_prime_iff_eq Nat.prime_two hn).mp hdiv
      omega
    · have := (Nat.prime_dvd_prime_iff_eq Nat.prime_three hn).mp hdiv
      omega
  · simp only [Bool.or_eq_true, decide_eq_true_eq, ← Nat.dvd_iff_mod_eq_zero, not_or] at hdiv
    rw [hasNoDivisorFrom_iff]
    exact ⟨prime_of_no_candidate (by omega) hdiv.1 hdiv.2, no_candidate_of_prime⟩

end PrimeReasoner.Prime
