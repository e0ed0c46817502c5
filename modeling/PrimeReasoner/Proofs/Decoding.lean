import Mathlib.Data.List.Sort
import PrimeReasoner.Proofs.Collision

/-!
# Numbers are read in the order of the table

A number does not remember which concept played which part.  What it is read as is all the same
determined: the factors come in ascending order, primes are given out in ascending order, so the concepts
stand in the order in which they were first asked for.

**Arranging.**  `Encoder.arrange` puts the concepts of a fact into the order of the table.  The number of
a fact is read as the arranged fact (`Encoder.Sound.fact?_code`), now and ever after
(`Encoder.Sound.arrange_grows`), and arranging leaves a fact alone exactly if its concepts are in that
order already (`Encoder.arrange_eq_self_iff`).
-/

namespace PrimeReasoner

lemma Fact.concepts_injective : Function.Injective Fact.concepts := by
  rintro ⟨_, _, _⟩ ⟨_, _, _⟩ h
  simpa [Fact.concepts] using h

lemma Fact.IsNormal.map_normalize {fact : Fact} (h : fact.IsNormal) :
    fact.concepts.map normalize = fact.concepts :=
  List.map_congr_left h |>.trans (List.map_id _)

namespace Encoder

/-! ## The order of the table -/

/-- The place of a concept in the table. -/
def rank (encoder : Encoder) (concept : String) : ℕ := encoder.concepts.idxOf concept

/-- The fact with its concepts in the order of the table. -/
def arrange (encoder : Encoder) (fact : Fact) : Fact :=
  match (fact.concepts.map normalize).insertionSort fun a b => encoder.rank a ≤ encoder.rank b with
  | [subject, predicate, object] => ⟨subject, predicate, object⟩
  | _ => fact

lemma concepts_arrange (encoder : Encoder) (fact : Fact) :
    (encoder.arrange fact).concepts =
      (fact.concepts.map normalize).insertionSort fun a b => encoder.rank a ≤ encoder.rank b := by
  have hlength : ((fact.concepts.map normalize).insertionSort
      fun a b => encoder.rank a ≤ encoder.rank b).length = 3 := by
    rw [List.length_insertionSort]
    rfl
  obtain ⟨a, b, c, hsorted⟩ := List.length_eq_three.mp hlength
  rw [arrange, hsorted]
  rfl

lemma perm_concepts_arrange (encoder : Encoder) (fact : Fact) :
    (encoder.arrange fact).concepts.Perm (fact.concepts.map normalize) := by
  rw [concepts_arrange]
  exact List.perm_insertionSort _ _

instance (encoder : Encoder) : Std.Total fun a b : String => encoder.rank a ≤ encoder.rank b :=
  ⟨fun _ _ => le_total _ _⟩

instance (encoder : Encoder) :
    IsTrans String fun a b : String => encoder.rank a ≤ encoder.rank b :=
  ⟨fun _ _ _ => le_trans⟩

lemma pairwise_concepts_arrange (encoder : Encoder) (fact : Fact) :
    (encoder.arrange fact).concepts.Pairwise fun a b => encoder.rank a ≤ encoder.rank b := by
  rw [concepts_arrange]
  exact List.pairwise_insertionSort _ _

/-- **What is in order is left alone**, and nothing else is. -/
lemma arrange_eq_self_iff {encoder : Encoder} {fact : Fact} (hnormal : fact.IsNormal) :
    encoder.arrange fact = fact ↔
      fact.concepts.Pairwise fun a b => encoder.rank a ≤ encoder.rank b := by
  constructor
  · intro heq
    exact heq ▸ encoder.pairwise_concepts_arrange fact
  · intro hsorted
    apply Fact.concepts_injective
    rw [concepts_arrange, hnormal.map_normalize]
    exact hsorted.insertionSort_eq

variable {encoder later : Encoder}

/-- The prime of a concept is the one of its place. -/
lemma Sound.prime?_eq_nth (h : encoder.Sound) {concept : String} (hmem : concept ∈ encoder.concepts) :
    encoder.prime? concept = some (Nat.nth Nat.Prime (encoder.rank concept)) := by
  have hlt : encoder.rank concept < encoder.concepts.length := List.idxOf_lt_length_iff.mpr hmem
  rw [h.prime?_eq_some_iff, h.table, tableOf, List.mem_mapIdx]
  exact ⟨encoder.rank concept, hlt, by simp [rank]⟩

/-- **Ascending primes, order of first request.** -/
lemma Sound.le_iff_rank_le (h : encoder.Sound) {a b : String} {p q : ℕ}
    (ha : encoder.prime? a = some p) (hb : encoder.prime? b = some q) :
    p ≤ q ↔ encoder.rank a ≤ encoder.rank b := by
  rw [h.prime?_eq_nth (h.mem_concepts ha), Option.some.injEq] at ha
  rw [h.prime?_eq_nth (h.mem_concepts hb), Option.some.injEq] at hb
  rw [← ha, ← hb, Nat.nth_le_nth Nat.infinite_setOfPred_prime]

/-! ## Reading the number of a fact -/

/-- The concept of an assigned number, with its prime. -/
lemma Sound.prime?_conceptOf (h : encoder.Sound) {p : ℕ} (hassigns : encoder.Assigns p) :
    encoder.prime? (encoder.conceptOf p) = some p := by
  obtain ⟨concept, prime, heq, hprime⟩ := hassigns
  obtain rfl := Nat.cast_injective heq
  rw [h.conceptOf_eq hprime, hprime]

/-- The fact that is read from the number of a fact has its concepts in ascending order. -/
lemma Sound.pairwise_of_fact? (h : encoder.Sound) {fact read : Fact}
    (hknows : encoder.Knows fact.concepts) (hread : encoder.fact? (encoder.code fact) = some read) :
    read.concepts.Pairwise fun a b => encoder.rank a ≤ encoder.rank b := by
  have hassigns : ∀ p ∈ (encoder.code fact).primeFactorsList, encoder.Assigns p := fun p hp =>
    h.assigns_of_mem_primeFactorsList hknows hp
  -- a concept of the table is in its normal spelling, so that building the fact leaves it alone
  have hconcepts : read.concepts =
      (encoder.code fact).primeFactorsList.map fun p : ℕ => encoder.conceptOf p := by
    have hnormal : ∀ p ∈ (encoder.code fact).primeFactorsList,
        normalize (encoder.conceptOf p) = encoder.conceptOf p := fun p hp =>
      (h.normal _ (h.conceptOf_mem (hassigns p hp))).1
    rw [fact?, Int.toNat_natCast] at hread
    split at hread
    · next a b c hfactors =>
      rw [hfactors] at hnormal ⊢
      simp only [List.forall_mem_cons] at hnormal
      obtain rfl := Option.some.inj hread
      simp [Fact.concepts, Fact.of, hnormal.1, hnormal.2.1, hnormal.2.2.1]
    · simp at hread
  rw [hconcepts, List.pairwise_map]
  refine (Nat.primeFactorsList_sorted _).pairwise.imp_of_mem fun hp hq hle => ?_
  exact (h.le_iff_rank_le (h.prime?_conceptOf (hassigns _ hp)) (h.prime?_conceptOf (hassigns _ hq))).mp hle

/-- **The number of a fact is read as the arranged fact.** -/
theorem Sound.fact?_code (h : encoder.Sound) {fact : Fact} (hknows : encoder.Knows fact.concepts) :
    encoder.fact? (encoder.code fact) = some (encoder.arrange fact) := by
  obtain ⟨read, hread, hperm⟩ := h.exists_fact? (h.factCode?_eq hknows)
  have hmem : ∀ concept ∈ read.concepts, concept ∈ encoder.concepts := by
    intro concept hconcept
    obtain ⟨given, hgiven, rfl⟩ := List.mem_map.mp (hperm.mem_iff.mp hconcept)
    exact hknows given hgiven
  have hsame : read.concepts = (encoder.arrange fact).concepts := by
    refine List.Perm.eq_of_pairwise (fun a b ha _ hle hge => ?_) (h.pairwise_of_fact? hknows hread)
      (encoder.pairwise_concepts_arrange fact) (hperm.trans (encoder.perm_concepts_arrange fact).symm)
    exact (List.idxOf_inj (hmem a ha)).mp (le_antisymm hle hge)
  rw [hread, Fact.concepts_injective hsame]

/-- The order of known concepts is settled. -/
lemma Sound.arrange_grows (h : encoder.Sound) (hlater : later.Sound) (hgrows : encoder.Grows later)
    {fact : Fact} (hknows : encoder.Knows fact.concepts) : later.arrange fact = encoder.arrange fact := by
  have hread := h.fact?_grows hlater hgrows ⟨fact, hknows, rfl⟩
  rw [← h.code_grows hlater hgrows hknows, hlater.fact?_code (hknows.grows hgrows),
    h.code_grows hlater hgrows hknows, h.fact?_code hknows] at hread
  exact Option.some.inj hread

/-! ## Both orders at once -/

lemma Knows.mem_concepts {fact : Fact} (hknows : encoder.Knows fact.concepts) (hnormal : fact.IsNormal) :
    ∀ concept ∈ fact.concepts, concept ∈ encoder.concepts := by
  intro concept hconcept
  have hmem := hknows concept hconcept
  rwa [hnormal concept hconcept] at hmem

/-- The arranged fact has its concepts in ascending order of their primes. -/
lemma Sound.sorted_primes_arrange (h : encoder.Sound) {fact : Fact} (hnormal : fact.IsNormal)
    (hknows : encoder.Knows fact.concepts) :
    ∃ primes : List ℕ, (encoder.arrange fact).concepts.map encoder.prime? = primes.map some ∧
      primes.SortedLE := by
  have hperm := encoder.perm_concepts_arrange fact
  rw [hnormal.map_normalize] at hperm
  refine ⟨(encoder.arrange fact).concepts.map fun concept => Nat.nth Nat.Prime (encoder.rank concept),
    ?_, ?_⟩
  · rw [List.map_map]
    exact List.map_congr_left fun concept hconcept =>
      h.prime?_eq_nth (hknows.mem_concepts hnormal concept (hperm.mem_iff.mp hconcept))
  · refine (List.pairwise_map.mpr ((encoder.pairwise_concepts_arrange fact).imp fun hle => ?_)).sortedLE
    exact (Nat.nth_le_nth Nat.infinite_setOfPred_prime).mpr hle

/-- A known fact is left alone exactly if its primes ascend. -/
lemma Sound.arrange_eq_self_iff_le (h : encoder.Sound) {fact : Fact} (hnormal : fact.IsNormal)
    (hknows : encoder.Knows fact.concepts) :
    ∃ p q r : ℕ, encoder.prime? fact.subject = some p ∧ encoder.prime? fact.predicate = some q ∧
      encoder.prime? fact.object = some r ∧ (encoder.arrange fact = fact ↔ p ≤ q ∧ q ≤ r) := by
  have hmem := hknows.mem_concepts hnormal
  refine ⟨_, _, _, h.prime?_eq_nth (hmem _ (by simp [Fact.concepts])),
    h.prime?_eq_nth (hmem _ (by simp [Fact.concepts])),
    h.prime?_eq_nth (hmem _ (by simp [Fact.concepts])), ?_⟩
  rw [arrange_eq_self_iff hnormal, Nat.nth_le_nth Nat.infinite_setOfPred_prime,
    Nat.nth_le_nth Nat.infinite_setOfPred_prime]
  simp only [Fact.concepts, List.pairwise_cons, List.mem_cons, List.not_mem_nil, or_false,
    forall_eq_or_imp, forall_eq, IsEmpty.forall_iff, implies_true, List.Pairwise.nil, and_true]
  omega

end Encoder

/-- **Decoding after encoding.**  Let an encoder be used in any way, and let it then encode a fact without blank
concepts.  From then on, whatever else is done with it, it reads the number as one and the same fact, which has the
same concepts in ascending order of their primes; that is the order in which they were first asked for.  So the fact
itself comes back exactly if the prime of its subject is not above that of its predicate, nor this one above that of
its object. -/
theorem decoded_in_order_of_primes (sieveLimit : Int) (before : List Prime.Request)
    (calls : List Encoder.Call) {fact : Fact} (hnormal : fact.IsNormal) (hcomplete : fact.IsComplete) :
    let encoder := (Encoder.fresh sieveLimit before).runAll calls
    ∃ (n : ℕ) (read : Fact), encoder.Encodes fact n ∧ read.concepts.Perm fact.concepts ∧
      ∀ more : List Encoder.Call, let later := encoder.runAll (.encodeFact fact :: more)
        later.Decodes n read ∧
        (∃ primes : List ℕ, read.concepts.map later.prime? = primes.map some ∧ primes.SortedLE) ∧
        (read.concepts.map fun concept => later.concepts.idxOf concept).SortedLE ∧
        ∃ p q r : ℕ, later.prime? fact.subject = some p ∧ later.prime? fact.predicate = some q ∧
          later.prime? fact.object = some r ∧ (read = fact ↔ p ≤ q ∧ q ≤ r) := by
  intro encoder
  have h : encoder.Sound := ((Encoder.sound_fresh sieveLimit before).1.runAll calls).1
  obtain ⟨hready, -, hknows, -⟩ := h.ready hcomplete
  have hperm := (encoder.ready fact).perm_concepts_arrange fact
  rw [hnormal.map_normalize] at hperm
  refine ⟨_, (encoder.ready fact).arrange fact, h.encodes_ready hcomplete, hperm, fun more => ?_⟩
  obtain ⟨hlater, -⟩ := hready.runAll more
  have hgrows := hready.grows_runAll more
  have hknows' := hknows.grows hgrows
  rw [Encoder.runAll_encodeFact_cons, ← hready.arrange_grows hlater hgrows hknows,
    ← hready.code_grows hlater hgrows hknows]
  exact ⟨hlater.decodes_iff.mpr (hlater.fact?_code hknows'), hlater.sorted_primes_arrange hnormal hknows',
    (List.pairwise_map.mpr (Encoder.pairwise_concepts_arrange _ fact)).sortedLE,
    hlater.arrange_eq_self_iff_le hnormal hknows'⟩

/-- An encoder that knows the object of a fact before its subject. -/
def lateSubject : Encoder := (Encoder.fresh 0 []).runAll [.primeOf "b"]

theorem decoded_with_object_first :
    ∃ read, (lateSubject.runAll [.encodeFact ⟨"a", "is", "b"⟩, .encodeFact ⟨"a", "is", "c"⟩]).Decodes 105
      read ∧ read.concepts.Perm ["a", "is", "b"] ∧ read ≠ ⟨"a", "is", "b"⟩ := by
  have hnormal : (⟨"a", "is", "b"⟩ : Fact).IsNormal := by decide +kernel
  obtain ⟨hn, hq, hr⟩ : ((Encoder.encodeFact ⟨"a", "is", "b"⟩).run.run lateSubject).1.toOption = some 105 ∧
      (lateSubject.runAll [.encodeFact ⟨"a", "is", "b"⟩, .encodeFact ⟨"a", "is", "c"⟩]).prime? "is" = some 7 ∧
      (lateSubject.runAll [.encodeFact ⟨"a", "is", "b"⟩, .encodeFact ⟨"a", "is", "c"⟩]).prime? "b" = some 3 := by
    decide +kernel
  obtain ⟨n, read, hencodes, hperm, hlater⟩ :=
    decoded_in_order_of_primes 0 [] [.primeOf "b"] hnormal (by decide +kernel)
  obtain ⟨hdecodes, -, -, p, q, r, -, hq', hr', hiff⟩ := hlater [.encodeFact ⟨"a", "is", "c"⟩]
  obtain rfl : n = 105 := Except.ok.inj (hencodes.symm.trans (eq_ok_of_toOption hn))
  obtain rfl : q = 7 := Option.some.inj (hq'.symm.trans hq)
  obtain rfl : r = 3 := Option.some.inj (hr'.symm.trans hr)
  refine ⟨read, hdecodes, hperm, fun heq => ?_⟩
  have := (hiff.mp heq).2
  omega

end PrimeReasoner
