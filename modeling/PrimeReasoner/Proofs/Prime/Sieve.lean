import Mathlib.Data.Nat.Prime.Basic
import PrimeReasoner.Prime.Sieve

/-!
# The sieve marks exactly the primes

The table is read through `marks.getD j false`, so a place beyond its end counts as unmarked.

**One strike.**  `strike marks i` clears `j` exactly when `j` is a multiple of `i` from the square of
`i` on (`getD_strike`).

**The invariant.**  Before the turn of `d` a number is marked exactly if it is at least two and every
prime below `d` that divides it has a square beyond it (`Sieved`).  A number that is still marked
when its turn comes is therefore prime, and striking it out is what the invariant asks for next.  A
number that is not marked, or whose square lies beyond the table, asks for nothing.

At the end every prime factor has had its turn, and the invariant says "prime" (`getD_sieve`).
-/

namespace PrimeReasoner.Prime

/-! ## Striking out one number -/

lemma size_foldl_clear (js : List ℕ) (marks : Array Bool) :
    (js.foldl (fun marks j => marks.setIfInBounds j false) marks).size = marks.size := by
  induction js generalizing marks with
  | nil => rfl
  | cons j js ih => rw [List.foldl_cons, ih, Array.size_setIfInBounds]

lemma getD_clear (marks : Array Bool) (i j : ℕ) :
    (marks.setIfInBounds i false).getD j false = true ↔ marks.getD j false = true ∧ i ≠ j := by
  simp only [Array.getD_eq_getD_getElem?, Array.getElem?_setIfInBounds]
  by_cases hij : i = j
  · subst hij
    by_cases hi : i < marks.size <;> simp [hi]
  · simp [hij]

/-- Clearing the places of a list leaves the marks outside the list. -/
lemma getD_foldl_clear (js : List ℕ) (marks : Array Bool) (j : ℕ) :
    (js.foldl (fun marks j => marks.setIfInBounds j false) marks).getD j false = true ↔
      marks.getD j false = true ∧ j ∉ js := by
  induction js generalizing marks with
  | nil => simp
  | cons i js ih =>
      rw [List.foldl_cons, ih, getD_clear, List.mem_cons, not_or, and_assoc, ne_comm]

/-- The places that `strike` visits are the multiples from the square on, up to the end. -/
lemma mem_struck {size i j : ℕ} (hi : 0 < i) (hj : j < size) :
    j ∈ List.range' (i * i) ((size - i * i + (i - 1)) / i) i ↔ i * i ≤ j ∧ i ∣ j := by
  rw [List.mem_range']
  constructor
  · rintro ⟨k, -, rfl⟩
    exact ⟨Nat.le_add_right _ _, Nat.dvd_add (Nat.dvd_mul_right i i) (Nat.dvd_mul_right i k)⟩
  · rintro ⟨hle, k, rfl⟩
    have hik : i ≤ k := Nat.le_of_mul_le_mul_left hle hi
    refine ⟨k - i, ?_, ?_⟩
    · rw [Nat.lt_iff_add_one_le, Nat.le_div_iff_mul_le hi, Nat.add_mul, Nat.sub_mul]
      have : k * i = i * k := Nat.mul_comm k i
      omega
    · rw [Nat.mul_sub]
      omega

lemma size_strike (marks : Array Bool) (i : ℕ) : (strike marks i).size = marks.size :=
  size_foldl_clear _ _

/-- **One strike** clears the multiples of `i` from its square on, and nothing else. -/
lemma getD_strike (marks : Array Bool) {i j : ℕ} (hi : 0 < i) (hj : j < marks.size) :
    (strike marks i).getD j false = true ↔
      marks.getD j false = true ∧ ¬ (i * i ≤ j ∧ i ∣ j) := by
  rw [strike, getD_foldl_clear, mem_struck hi hj]

/-! ## The invariant of the loop -/

/-- **What is marked before the turn of `d`.** -/
structure Sieved (limit d : ℕ) (marks : Array Bool) : Prop where
  size : marks.size = limit + 1
  /-- A mark stands where no prime below `d` has struck. -/
  mark : ∀ j, j ≤ limit →
    (marks.getD j false = true ↔ 2 ≤ j ∧ ∀ p, p.Prime → p < d → p ∣ j → j < p * p)

lemma sieved_fullTable (limit : ℕ) : Sieved limit 0 (fullTable limit) where
  size := by simp [fullTable]
  mark := by
    intro j hj
    rw [fullTable, getD_clear, getD_clear]
    have hfull : (Array.replicate (limit + 1) true).getD j false = true := by
      simp [Array.getD_eq_getD_getElem?, Nat.lt_succ_of_le hj]
    simp only [hfull, true_and, Nat.not_lt_zero, false_implies, implies_true, and_true]
    omega

/-- A number that is still marked once all smaller ones have had their turn is prime. -/
lemma Sieved.marked_iff_prime {limit d j : ℕ} {marks : Array Bool} (h : Sieved limit d marks)
    (hj : j ≤ limit) (hd : j ≤ d) : marks.getD j false = true ↔ j.Prime := by
  rw [h.mark j hj]
  constructor
  · rintro ⟨h2, hno⟩
    by_contra hnot
    have hsq : j.minFac * j.minFac ≤ j := by
      simpa [sq] using Nat.minFac_sq_le_self (by omega) hnot
    have hlt : j.minFac < j := (Nat.not_prime_iff_minFac_lt h2).mp hnot
    have := hno j.minFac (Nat.minFac_prime (by omega)) (by omega) (Nat.minFac_dvd j)
    omega
  · intro hprime
    refine ⟨hprime.two_le, fun p hp _ hdvd => ?_⟩
    obtain rfl := (Nat.prime_dvd_prime_iff_eq hp hprime).mp hdvd
    have := Nat.mul_le_mul_left p hp.two_le
    have := hp.pos
    omega

/-- **One turn keeps the invariant.** -/
lemma Sieved.step {limit d : ℕ} {marks : Array Bool} (h : Sieved limit d marks) (hd : d ≤ limit) :
    Sieved limit (d + 1) (sieveStep marks d) := by
  have hprime := h.marked_iff_prime hd le_rfl
  unfold sieveStep
  split_ifs with hstrike
  · -- `d` is prime and strikes
    simp only [Bool.and_eq_true, decide_eq_true_eq] at hstrike
    have hd' : d.Prime := hprime.mp hstrike.2
    refine ⟨by rw [size_strike, h.size], fun j hj => ?_⟩
    rw [getD_strike marks hd'.pos (by rw [h.size]; omega), h.mark j hj, and_assoc]
    refine and_congr_right fun _ => ⟨?_, ?_⟩
    · rintro ⟨hbelow, hno⟩ p hp hlt hdvd
      rcases Nat.lt_succ_iff_lt_or_eq.mp hlt with hlt | rfl
      · exact hbelow p hp hlt hdvd
      · exact Nat.lt_of_not_le fun hle => hno ⟨hle, hdvd⟩
    · intro hall
      refine ⟨fun p hp hlt hdvd => hall p hp (by omega) hdvd, fun ⟨hle, hdvd⟩ => ?_⟩
      have := hall d hd' (by omega) hdvd
      omega
  · -- `d` is not prime, or its square lies beyond the table
    simp only [Bool.and_eq_true, decide_eq_true_eq, h.size, not_and] at hstrike
    refine ⟨h.size, fun j hj => ?_⟩
    rw [h.mark j hj]
    refine and_congr_right fun _ => ⟨?_, ?_⟩
    · intro hbelow p hp hlt hdvd
      rcases Nat.lt_succ_iff_lt_or_eq.mp hlt with hlt | rfl
      · exact hbelow p hp hlt hdvd
      · by_contra hle
        exact hstrike (by omega) (hprime.mpr hp)
    · intro hall p hp hlt hdvd
      exact hall p hp (by omega) hdvd

/-- **The loop keeps the invariant**: after all turns below `d` it holds for `d`. -/
lemma sieved_fold (limit d : ℕ) (hd : d ≤ limit + 1) :
    Sieved limit d (d.fold (fun i _ marks => sieveStep marks i) (fullTable limit)) := by
  induction d with
  | zero => exact sieved_fullTable limit
  | succ d ih =>
      rw [Nat.fold_succ]
      exact (ih (by omega)).step (by omega)

/-- **The sieve marks exactly the primes.** -/
theorem getD_sieve {limit j : ℕ} (hj : j ≤ limit) :
    (sieve limit).getD j false = true ↔ j.Prime :=
  (sieved_fold limit (limit + 1) le_rfl).marked_iff_prime hj (by omega)

/-- The list of the sieve is the list of the primes up to the limit, in ascending order. -/
theorem primesUpTo_eq (limit : ℕ) :
    primesUpTo limit = (List.range (limit + 1)).filter Nat.Prime := by
  refine List.filter_congr fun j hj => ?_
  have hle : j ≤ limit := Nat.lt_succ_iff.mp (List.mem_range.mp hj)
  rw [Bool.eq_iff_iff, getD_sieve hle, decide_eq_true_eq]

end PrimeReasoner.Prime
