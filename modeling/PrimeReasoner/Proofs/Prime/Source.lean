import Mathlib.NumberTheory.Bertrand
import Mathlib.NumberTheory.PrimeCounting
import Mathlib.Data.Nat.Factors
import PrimeReasoner.Prime.Source
import PrimeReasoner.Proofs.Prime.Sieve
import PrimeReasoner.Proofs.Prime.Trial

/-!
# A source of primes is right in every state

A source is used in any order, by several users, and remembers what it found.  What it hands out
never depends on that: the `k`-th prime is `Nat.nth Nat.Prime k` and the factors of `n` are
`n.primeFactorsList`, whatever was asked before.

**The invariant.**  `Source.Sound` says that the known primes are the first ones without a gap, and
that every remembered answer is right.  It holds of a fresh source and after every request
(`sound_ofLimit`, `Sound.serve`), hence in every state that a source can be in
(`sound_serveAll`).

**No gaps.**  The next candidate has exactly the known primes below it, so the first prime from
there on is the next one.  `Nat.count` keeps that account, and Bertrand's postulate bounds the
search.

**Factors.**  `factorsFrom` has divided out all primes before its index; what is left has no
smaller factor, so it is prime once the square of the next prime exceeds it.
-/

namespace PrimeReasoner.Prime

/-! ## Requests -/

/-- What a user may ask of a source. -/
inductive Request where
  | isPrime (n : Int)
  | nthPrime (index : Int)
  | factorize (n : Int)

namespace Source

/-- The source after a request. -/
def serve (source : Source) : Request → Source
  | .isPrime n => (source.isPrime n).2
  | .nthPrime index => (source.nthPrime index).2
  | .factorize n => (source.factorize n).2

/-- The source after several requests, in order. -/
def serveAll (source : Source) (requests : List Request) : Source := requests.foldl serve source

/-- **The known primes are the first ones and the remembered answers are right.** -/
structure Sound (source : Source) : Prop where
  /-- There is no gap among the known primes. -/
  known : source.known.toList = (List.range source.known.size).map (Nat.nth Nat.Prime)
  /-- Memory does not err. -/
  memo : ∀ (n : Int) (answer : Bool), source.memo[n]? = some answer →
    (answer = true ↔ n.toNat.Prime)

end Source

/-! ## A fresh source -/

/-- The primes below a bound are the first ones, as many as there are. -/
lemma filter_range_prime (n : ℕ) :
    (List.range n).filter Nat.Prime = (List.range (Nat.count Nat.Prime n)).map (Nat.nth Nat.Prime) := by
  induction n with
  | zero => simp
  | succ n ih =>
      rw [List.range_succ, List.filter_append, ih, Nat.count_succ]
      by_cases hn : n.Prime
      · simp [hn, List.range_succ, Nat.nth_count hn]
      · simp [hn]

lemma Source.sound_ofLimit (limit : Int) : (Source.ofLimit limit).Sound where
  known := by
    unfold Source.ofLimit
    split_ifs with h
    · simp
    · have hlen := congrArg List.length (filter_range_prime (limit.toNat + 1))
      simp only [List.length_map, List.length_range] at hlen
      simp only [primesUpTo_eq, List.size_toArray, hlen]
      exact filter_range_prime _
  memo := by
    intro n answer h
    simp [Source.ofLimit] at h

namespace Source

/-! ## Primality -/

lemma Sound.isPrime {source : Source} (h : source.Sound) (n : Int) :
    ((source.isPrime n).1 = true ↔ n.toNat.Prime) ∧ (source.isPrime n).2.Sound ∧
      (source.isPrime n).2.known = source.known := by
  unfold Source.isPrime
  split
  · next answer hfound => exact ⟨h.memo n answer hfound, ⟨h.known, h.memo⟩, rfl⟩
  · refine ⟨isPrime_iff _, ⟨h.known, fun m answer hm => ?_⟩, rfl⟩
    simp only [Std.TreeMap.getElem?_insert] at hm
    split_ifs at hm with hnm
    · rw [Std.LawfulEqCmp.compare_eq_iff_eq] at hnm
      obtain rfl := hnm
      obtain rfl := Option.some.inj hm
      exact isPrime_iff _
    · exact h.memo m answer hm

/-! ## The next prime -/

/-- The search finds the first prime from the candidate on, if there is one among its tries. -/
lemma Sound.firstPrimeFrom {source : Source} (h : source.Sound) (tries candidate : ℕ)
    (hnear : Nat.nth Nat.Prime (Nat.count Nat.Prime candidate) < candidate + tries) :
    (source.firstPrimeFrom tries candidate).1 = Nat.nth Nat.Prime (Nat.count Nat.Prime candidate) ∧
      (source.firstPrimeFrom tries candidate).2.Sound ∧
      (source.firstPrimeFrom tries candidate).2.known = source.known := by
  induction tries generalizing source candidate with
  | zero =>
      have hle : candidate ≤ Nat.nth Nat.Prime (Nat.count Nat.Prime candidate) :=
        Nat.le_nth_count Nat.infinite_setOfPred_prime candidate
      omega
  | succ tries ih =>
      obtain ⟨hright, hsound, hknown⟩ := h.isPrime (candidate : Int)
      rw [Int.toNat_natCast] at hright
      unfold Source.firstPrimeFrom
      split
      · next found hfound =>
        rw [hfound] at hright hsound hknown
        exact ⟨(Nat.nth_count (hright.mp rfl)).symm, hsound, hknown⟩
      · next found hfound =>
        rw [hfound] at hright hsound hknown
        have hcomposite : ¬ candidate.Prime := fun hp => absurd (hright.mpr hp) (by simp)
        have hcount : Nat.count Nat.Prime (candidate + 1) = Nat.count Nat.Prime candidate :=
          Nat.count_succ_eq_count_iff.mpr hcomposite
        have hrest := ih hsound (candidate + 1) (by rw [hcount]; omega)
        rw [hcount, hknown] at hrest
        exact hrest

/-- Exactly the known primes lie below the next candidate. -/
lemma Sound.count_nextCandidate {source : Source} (h : source.Sound) :
    Nat.count Nat.Prime source.nextCandidate = source.known.size ∧ 2 ≤ source.nextCandidate := by
  have hback : source.known.back? = source.known.toList.getLast? := by simp
  unfold nextCandidate
  rw [hback, h.known]
  cases hsize : source.known.size with
  | zero => exact ⟨by decide, le_rfl⟩
  | succ k =>
      have htwo := (Nat.prime_nth_prime k).two_le
      simp only [List.range_succ, List.map_append, List.map_cons, List.map_nil,
        List.getLast?_append, List.getLast?_singleton, Option.some_or]
      exact ⟨Nat.count_nth_succ_of_infinite Nat.infinite_setOfPred_prime k, by omega⟩

/-- There is a prime between a number and its double. -/
lemma nth_count_lt_two_mul {n : ℕ} (hn : 2 ≤ n) :
    Nat.nth Nat.Prime (Nat.count Nat.Prime n) < n + n := by
  obtain ⟨p, hp, hlow, hhigh⟩ := Nat.exists_prime_lt_and_le_two_mul (n - 1) (by omega)
  have hle : Nat.nth Nat.Prime (Nat.count Nat.Prime n) ≤ p := by
    rw [Nat.nth_count_eq_sInf]
    exact Nat.sInf_le ⟨hp, by omega⟩
  omega

/-- **Extending adds the next prime.** -/
lemma Sound.extend {source : Source} (h : source.Sound) :
    source.extend.Sound ∧ source.extend.known.size = source.known.size + 1 := by
  obtain ⟨hcount, htwo⟩ := h.count_nextCandidate
  obtain ⟨hprime, hsound, hknown⟩ :=
    h.firstPrimeFrom source.nextCandidate source.nextCandidate (nth_count_lt_two_mul htwo)
  rw [hcount] at hprime
  unfold Source.extend
  refine ⟨⟨?_, hsound.memo⟩, by simp [hknown]⟩
  simp only [hknown, Array.toList_push, Array.size_push, hprime, h.known]
  simp [List.range_succ]

lemma Sound.extendBy {source : Source} (h : source.Sound) (count : ℕ) :
    (source.extendBy count).Sound ∧ (source.extendBy count).known.size = source.known.size + count := by
  induction count generalizing source with
  | zero => exact ⟨h, rfl⟩
  | succ count ih =>
      obtain ⟨hsound, hsize⟩ := h.extend
      obtain ⟨hsound', hsize'⟩ := ih hsound
      exact ⟨hsound', by rw [Source.extendBy, hsize', hsize]; omega⟩

/-- **The prime with an index is that prime**, whatever the source has been asked before. -/
lemma Sound.nth {source : Source} (h : source.Sound) (index : ℕ) :
    (source.nth index).1 = Nat.nth Nat.Prime index ∧ (source.nth index).2.Sound := by
  obtain ⟨hsound, hsize⟩ := h.extendBy (index + 1 - source.known.size)
  refine ⟨?_, hsound⟩
  have hlt : index < (source.extendBy (index + 1 - source.known.size)).known.size := by omega
  simp only [Source.nth, Array.getD_eq_getD_getElem?, ← Array.getElem?_toList, hsound.known]
  simp [hlt]

/-! ## Factors -/

end Source

/-- A factor that is not above any other one comes first. -/
lemma primeFactorsList_of_least {p n : ℕ} (hn : 0 < n) (hp : p.Prime) (hdvd : p ∣ n)
    (hleast : ∀ q, q.Prime → q ∣ n → p ≤ q) :
    n.primeFactorsList = p :: (n / p).primeFactorsList := by
  have hle := Nat.le_of_dvd hn hdvd
  have htwo := hp.two_le
  have hmin : n.minFac = p :=
    le_antisymm (Nat.minFac_le_of_dvd htwo hdvd)
      (hleast _ (Nat.minFac_prime (by omega)) (Nat.minFac_dvd n))
  obtain ⟨m, rfl⟩ : ∃ m, n = m + 2 := ⟨n - 2, by omega⟩
  rw [Nat.primeFactorsList_add_two, hmin]

/-- Dividing out the smallest possible factor splits it off the list of factors. -/
lemma divideOut_spec {p n : ℕ} (hn : 0 < n) (hp : p.Prime)
    (hleast : ∀ q, q.Prime → q ∣ n → p ≤ q) :
    n.primeFactorsList = List.replicate (divideOut p n).1 p ++ (divideOut p n).2.primeFactorsList ∧
      0 < (divideOut p n).2 ∧ ¬ p ∣ (divideOut p n).2 ∧ (divideOut p n).2 ∣ n := by
  fun_induction divideOut p n with
  | case1 n h hlt count rest hrest ih =>
      have hdvd : p ∣ n := Nat.dvd_of_mod_eq_zero h.2.2
      have hquot : 0 < n / p := Nat.div_pos (Nat.le_of_dvd hn hdvd) hp.pos
      have hback : n / p ∣ n := Nat.div_dvd_of_dvd hdvd
      obtain ⟨hlist, hpos, hnot, hrem⟩ := ih hquot fun q hq hqd => hleast q hq (hqd.trans hback)
      rw [hrest] at hlist hpos hnot hrem
      refine ⟨?_, hpos, hnot, hrem.trans hback⟩
      rw [primeFactorsList_of_least hn hp hdvd hleast, hlist]
      rfl
  | case2 n h =>
      have hnot : ¬ p ∣ n := fun hdvd => h ⟨hp.one_lt, hn, Nat.mod_eq_zero_of_dvd hdvd⟩
      exact ⟨by simp, hn, hnot, dvd_rfl⟩

/-- What no smaller prime divides has no factor below the prime with the index. -/
lemma nth_le_of_dvd {index rest : ℕ} (hout : ∀ i < index, ¬ Nat.nth Nat.Prime i ∣ rest) {q : ℕ}
    (hq : q.Prime) (hdvd : q ∣ rest) : Nat.nth Nat.Prime index ≤ q := by
  rw [← Nat.nth_count hq] at hdvd ⊢
  rw [Nat.nth_le_nth Nat.infinite_setOfPred_prime]
  exact Nat.le_of_not_lt fun hlt => hout _ hlt hdvd

/-- A number above one that has no factor below a prime, and is less than its square, is prime. -/
lemma prime_of_lt_sq {p rest : ℕ} (hrest : 1 < rest) (hleast : ∀ q, q.Prime → q ∣ rest → p ≤ q)
    (hlt : rest < p * p) : rest.Prime := by
  by_contra hnot
  have hsq : rest.minFac * rest.minFac ≤ rest := by
    simpa [sq] using Nat.minFac_sq_le_self (by omega) hnot
  have hle := hleast _ (Nat.minFac_prime (by omega)) (Nat.minFac_dvd rest)
  have := Nat.mul_le_mul hle hle
  omega

namespace Source

/-- **The loop completes the list of factors.**  What is tried is `fuel` further primes; as the
prime with an index exceeds the index, `rest ≤ fuel + index` is fuel enough. -/
lemma Sound.factorsFrom {source : Source} (h : source.Sound) (found : List ℕ) (fuel index rest : ℕ)
    (hpos : 0 < rest) (hfuel : rest ≤ fuel + index)
    (hout : ∀ i < index, ¬ Nat.nth Nat.Prime i ∣ rest) :
    (source.factorsFrom found fuel index rest).1 = found ++ rest.primeFactorsList ∧
      (source.factorsFrom found fuel index rest).2.Sound := by
  induction fuel generalizing source found index rest with
  | zero =>
      have hone : rest = 1 := by
        by_contra hne
        have hle := nth_le_of_dvd hout (Nat.minFac_prime hne) (Nat.minFac_dvd rest)
        have := Nat.add_two_le_nth_prime index
        have := Nat.minFac_le hpos
        omega
      simp [Source.factorsFrom, hone, h]
  | succ fuel ih =>
      obtain ⟨hprime, hsound⟩ := h.nth index
      unfold Source.factorsFrom
      split_ifs with hle
      · have hone : rest = 1 := by omega
        simp [hone, h]
      · simp only [hprime]
        have hp := Nat.prime_nth_prime index
        have hleast : ∀ q, q.Prime → q ∣ rest → Nat.nth Nat.Prime index ≤ q :=
          fun q hq hdvd => nth_le_of_dvd hout hq hdvd
        split_ifs with hsq
        · have hrest : rest.Prime := prime_of_lt_sq (by omega) hleast hsq
          exact ⟨by rw [Nat.primeFactorsList_prime hrest], hsound⟩
        · obtain ⟨hlist, hpos', hnot, hdvd⟩ := divideOut_spec hpos hp hleast
          have hle' := Nat.le_of_dvd hpos hdvd
          have hnext := ih hsound
            (found ++ List.replicate (divideOut (Nat.nth Nat.Prime index) rest).1
              (Nat.nth Nat.Prime index)) (index + 1) _ hpos' (by omega)
            (fun i hi => by
              rcases Nat.lt_succ_iff_lt_or_eq.mp hi with hi | rfl
              · exact fun hd => hout i hi (hd.trans hdvd)
              · exact hnot)
          refine ⟨?_, hnext.2⟩
          rw [hnext.1, hlist, List.append_assoc]

/-- **The factors of a number are its prime factors in ascending order**, whatever the source has
been asked before. -/
lemma Sound.factorize {source : Source} (h : source.Sound) (n : Int) :
    (source.factorize n).1 = n.toNat.primeFactorsList ∧ (source.factorize n).2.Sound := by
  unfold Source.factorize
  split_ifs with hn
  · have hsmall : n.toNat = 0 ∨ n.toNat = 1 := by omega
    rcases hsmall with hz | hz <;> simp [hz, h]
  · have hcounted : Sound { source with
        usage.factorizations := source.usage.factorizations + 1 } := ⟨h.known, h.memo⟩
    simpa using hcounted.factorsFrom [] n.toNat 0 n.toNat (by omega) (by omega) (by simp)

/-! ## Every state of a source -/

/-- **One request keeps the source sound.** -/
lemma Sound.serve {source : Source} (h : source.Sound) (request : Request) :
    (source.serve request).Sound := by
  cases request with
  | isPrime n => exact (h.isPrime n).2.1
  | nthPrime index =>
      simp only [Source.serve, Source.nthPrime]
      split_ifs
      · exact h
      · exact (h.nth index.toNat).2
  | factorize n => exact (h.factorize n).2

/-- **Every source in use is sound.** -/
theorem sound_serveAll (limit : Int) (requests : List Request) :
    ((ofLimit limit).serveAll requests).Sound := by
  suffices h : ∀ source : Source, source.Sound → (source.serveAll requests).Sound from
    h _ (sound_ofLimit limit)
  induction requests with
  | nil => exact fun source h => h
  | cons request requests ih => exact fun source h => ih _ (h.serve request)

end Source

end PrimeReasoner.Prime
