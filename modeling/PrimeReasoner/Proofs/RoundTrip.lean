import PrimeReasoner.Proofs.Decoding

/-!
# Numbers that are read and encoded again

An integer is read as a fact exactly if it is a product of three primes, whatever else it is: negative, zero, or with
factors far beyond the known primes (`Encoder.fact?_eq_none_iff`).  Primes that no concept has are read as
placeholders.

**And back.**  If its three primes are those of concepts, the fact that is read has just these concepts, and encoding
it multiplies the same primes (`Encoder.Sound.exists_fact?_of_assigns`).  The spelling of a concept in the table is its
normal one, so building the fact and asking for the primes find it again, and nothing is entered.
-/

namespace PrimeReasoner

/-- The integer is a product of three primes, which need not differ. -/
def IsTripleProduct (n : Int) : Prop :=
  ∃ p q r : ℕ, p.Prime ∧ q.Prime ∧ r.Prime ∧ n = p * q * r

lemma eq_mul_of_primeFactorsList {n : Int} {p q r : ℕ} (hfactors : n.toNat.primeFactorsList = [p, q, r]) :
    n = p * q * r := by
  have hpos : n.toNat ≠ 0 := by
    intro hzero
    simp [hzero] at hfactors
  have hprod := Nat.prod_primeFactorsList hpos
  have hn : (n.toNat : Int) = n := Int.toNat_of_nonneg (by omega)
  rw [← hn, ← hprod, hfactors]
  simp [mul_assoc]

lemma perm_primeFactorsList_of_eq {n : Int} {p q r : ℕ} (hp : p.Prime) (hq : q.Prime) (hr : r.Prime)
    (hn : n = p * q * r) : [p, q, r].Perm n.toNat.primeFactorsList := by
  have hcast : n = ([p, q, r].prod : ℕ) := by simp [hn, mul_assoc]
  rw [hcast, Int.toNat_natCast]
  exact Nat.primeFactorsList_unique rfl (by simp [hp, hq, hr])

lemma length_primeFactorsList_iff {n : Int} : n.toNat.primeFactorsList.length = 3 ↔ IsTripleProduct n := by
  constructor
  · intro hlength
    obtain ⟨p, q, r, hfactors⟩ := List.length_eq_three.mp hlength
    have hprime : ∀ p ∈ n.toNat.primeFactorsList, p.Prime := fun _ => Nat.prime_of_mem_primeFactorsList
    simp only [hfactors, List.forall_mem_cons] at hprime
    exact ⟨p, q, r, hprime.1, hprime.2.1, hprime.2.2.1, eq_mul_of_primeFactorsList hfactors⟩
  · rintro ⟨p, q, r, hp, hq, hr, hn⟩
    exact (perm_primeFactorsList_of_eq hp hq hr hn).length_eq.symm

namespace Encoder

variable {encoder : Encoder} {n : Int}

/-- **What cannot be read** are the integers that are no products of three primes. -/
theorem fact?_eq_none_iff : encoder.fact? n = none ↔ ¬ IsTripleProduct n := by
  rw [← length_primeFactorsList_iff, fact?]
  rcases n.toNat.primeFactorsList with _ | ⟨a, _ | ⟨b, _ | ⟨c, _ | ⟨d, rest⟩⟩⟩⟩ <;> simp

lemma Sound.assigns_of_mem_table (h : encoder.Sound) {p : ℕ} (hp : p ∈ encoder.table.map Entry.prime) :
    encoder.Assigns p := by
  obtain ⟨entry, hentry, rfl⟩ := List.mem_map.mp hp
  exact ⟨entry.concept, entry.prime, rfl, h.prime?_eq_some_iff.mpr hentry⟩

/-- A concept that is read from an assigned prime has that prime, however often it is spelled anew. -/
lemma Sound.prime?_normalize_conceptOf (h : encoder.Sound) {p : ℕ} (hassigns : encoder.Assigns p) :
    encoder.prime? (normalize (normalize (encoder.conceptOf p))) = some p := by
  rw [normalize_normalize, (h.normal _ (h.conceptOf_mem hassigns)).1, h.prime?_conceptOf hassigns]

/-- **Reading and encoding again.**  A product of three assigned primes is read as a fact of known concepts that has
it as its number. -/
theorem Sound.exists_fact?_of_assigns (h : encoder.Sound) (htriple : IsTripleProduct n)
    (hassigns : ∀ p ∈ n.toNat.primeFactorsList, encoder.Assigns p) :
    ∃ fact, encoder.fact? n = some fact ∧ encoder.Knows fact.concepts ∧ (encoder.code fact : Int) = n := by
  obtain ⟨p, q, r, hfactors⟩ := List.length_eq_three.mp (length_primeFactorsList_iff.mpr htriple)
  have hn := eq_mul_of_primeFactorsList hfactors
  simp only [hfactors, List.forall_mem_cons] at hassigns
  have hp := h.prime?_normalize_conceptOf hassigns.1
  have hq := h.prime?_normalize_conceptOf hassigns.2.1
  have hr := h.prime?_normalize_conceptOf hassigns.2.2.1
  let fact := Fact.of (encoder.conceptOf p) (encoder.conceptOf q) (encoder.conceptOf r)
  have hcode : encoder.factCode? fact = some (p * q * r) :=
    factCode?_eq_some_iff.mpr ⟨p, q, r, hp, hq, hr, rfl⟩
  refine ⟨fact, by rw [fact?, hfactors], ?_, ?_⟩
  · simp only [fact, Knows, Fact.concepts, Fact.of, List.forall_mem_cons]
    exact ⟨h.mem_concepts hp, h.mem_concepts hq, h.mem_concepts hr, by simp⟩
  · rw [code, hcode, Option.getD_some, hn]
    push_cast
    rfl

end Encoder

/-- **Encoding after decoding.**  Let an encoder be used in any way, and let it then decode any integer.  There is no
fact if and only if the integer is not a product of three primes.  If it is one, and all three are primes of concepts
in the table, encoding the fact gives the integer again, at once or after any further use of the encoder.  Neither
decoding nor encoding enters anything into the table. -/
theorem encoded_after_decoding (sieveLimit : Int) (before : List Prime.Request) (calls : List Encoder.Call)
    (n : Int) :
    let encoder := (Encoder.fresh sieveLimit before).runAll calls
    let decoded := ((Encoder.decodeFact n).run encoder).1
    let after := ((Encoder.decodeFact n).run encoder).2
    (decoded = none ↔ ¬ ∃ p q r : ℕ, p.Prime ∧ q.Prime ∧ r.Prime ∧ n = p * q * r) ∧
    after.table = encoder.table ∧
    ∀ p q r : ℕ, p.Prime → q.Prime → r.Prime → n = p * q * r →
      (∀ prime ∈ [p, q, r], prime ∈ encoder.table.map Entry.prime) →
      ∃ fact, decoded = some fact ∧ ∀ more : List Encoder.Call, let later := after.runAll more
        ∃ (m : ℕ) (last : Encoder), (Encoder.encodeFact fact).run.run later = (.ok m, last) ∧ (m : Int) = n ∧
          last.table = later.table := by
  intro encoder decoded after
  have h : encoder.Sound := ((Encoder.sound_fresh sieveLimit before).1.runAll calls).1
  obtain ⟨later, hrun, hsame⟩ := h.run_decodeFact n
  obtain ⟨hdecoded, hafter⟩ : decoded = encoder.fact? n ∧ after = later := Prod.mk.inj hrun
  rw [hdecoded, hafter]
  refine ⟨Encoder.fact?_eq_none_iff, hsame.table, fun p q r hp hq hr hn htable => ?_⟩
  have hfactors := perm_primeFactorsList_of_eq hp hq hr hn
  obtain ⟨fact, hfact, hknows, hcode⟩ := h.exists_fact?_of_assigns ⟨p, q, r, hp, hq, hr, hn⟩
    fun prime hprime => h.assigns_of_mem_table (htable prime (hfactors.mem_iff.mpr hprime))
  refine ⟨fact, hfact, fun more => ?_⟩
  -- the concepts are known, and stay so, hence the number is the same after any further use
  obtain ⟨hlater, -⟩ := hsame.sound.runAll more
  have hgrows := hsame.grows.trans (hsame.sound.grows_runAll more)
  obtain ⟨m, last, hencode, hlast, hm⟩ := hlater.run_encodeFact (hknows.grows hgrows)
  refine ⟨m, last, hencode, ?_, hlast.table⟩
  rw [← hcode, ← h.code_grows hlater hgrows hknows, Encoder.code, hm, Option.getD_some]

/-- An encoder that knows a fact. -/
def oneFact : Encoder := (Encoder.fresh 0 []).runAll [.encodeFact ⟨"a", "is", "b"⟩]

/-- A concept may be read twice, and a negative number is no fact. -/
theorem encoded_after_decoding_twice :
    (∃ fact m, ((Encoder.decodeFact 63).run oneFact).1 = some fact ∧
      ((Encoder.encodeFact fact).run.run ((Encoder.decodeFact 63).run oneFact).2).1 = .ok m ∧ (m : Int) = 63) ∧
    ((Encoder.decodeFact (-63)).run oneFact).1 = none := by
  constructor
  · obtain ⟨-, -, hencode⟩ := encoded_after_decoding 0 [] [.encodeFact ⟨"a", "is", "b"⟩] 63
    have htable : ∀ prime ∈ [3, 3, 7], prime ∈ oneFact.table.map Entry.prime := by decide +kernel
    obtain ⟨fact, hfact, hlater⟩ := hencode 3 3 7 (by norm_num) (by norm_num) (by norm_num) (by norm_num) htable
    obtain ⟨m, _, hrun, hm, -⟩ := hlater []
    exact ⟨fact, m, hfact, congrArg Prod.fst hrun, hm⟩
  · refine (encoded_after_decoding 0 [] [.encodeFact ⟨"a", "is", "b"⟩] (-63)).1.mpr ?_
    rintro ⟨p, q, r, -, -, -, hn⟩
    have hpos : (0 : Int) ≤ p * q * r := by positivity
    omega

end PrimeReasoner
