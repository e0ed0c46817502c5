import PrimeReasoner.Proofs.Certificate

/-!
# Facts with the same number

The number of a fact is the product of its three primes, which does not remember their order.  It remembers
everything else: two facts have the same number exactly if they have the same concepts in some order, because
a number has only one factorization and every concept keeps its prime (`Encoder.Sound.code_eq_iff`).

**Stored numbers.**  What a store holds for a fact is the number that its table gives the fact, not only when
the fact was added but ever after (`Knowledge.Numbered`, `Store.IsReachable.numbered`).  So a look-up by number
finds the stored facts that permute the one asked for, and no others (`Knowledge.Fits.holds_code_iff`).
-/

namespace PrimeReasoner

namespace Encoder

variable {encoder : Encoder}

/-- The number of a fact is a product over its concepts. -/
lemma Sound.code_eq_prod (h : encoder.Sound) {fact : Fact} (hknows : encoder.Knows fact.concepts) :
    encoder.code fact =
      ((fact.concepts.map normalize).map fun concept => (encoder.prime? concept).getD 1).prod := by
  obtain ⟨subject, predicate, object, hsubject, hpredicate, hobject, hcode⟩ :=
    factCode?_eq_some_iff.mp (h.factCode?_eq hknows)
  simp [Fact.concepts, hsubject, hpredicate, hobject, ← hcode, mul_assoc]

/-- **Equal numbers, same concepts.** -/
theorem Sound.code_eq_iff (h : encoder.Sound) {first second : Fact}
    (hfirst : encoder.Knows first.concepts) (hsecond : encoder.Knows second.concepts) :
    encoder.code first = encoder.code second ↔ first.Permutes second := by
  constructor
  · intro hcode
    -- both are permutations of the fact that the number is read as
    obtain ⟨read, hread, hperm⟩ := h.exists_fact? (h.factCode?_eq hfirst)
    obtain ⟨read', hread', hperm'⟩ := h.exists_fact? (h.factCode?_eq hsecond)
    obtain rfl : read = read' := by
      rw [hcode, hread'] at hread
      exact (Option.some.inj hread).symm
    exact hperm.symm.trans hperm'
  · intro hperm
    rw [h.code_eq_prod hfirst, h.code_eq_prod hsecond]
    exact (hperm.map _).prod_eq

lemma Sound.encodes_ready (h : encoder.Sound) {fact : Fact} (hcomplete : fact.IsComplete) :
    encoder.Encodes fact ((encoder.ready fact).code fact) := by
  obtain ⟨-, -, -, hrun⟩ := h.ready hcomplete
  rw [Encodes, hrun]

lemma runAll_encodeFact_cons (encoder : Encoder) (fact : Fact) (calls : List Call) :
    encoder.runAll (.encodeFact fact :: calls) = (encoder.ready fact).runAll calls := by
  simp only [runAll, List.foldl_cons, Call.run, ready]

end Encoder

/-! ## Stored numbers -/

/-- **Stored numbers are up to date**: each stored fact has the number that the table gives it. -/
def Knowledge.Numbered (knowledge : Knowledge) (encoder : Encoder) : Prop :=
  knowledge.encodings = knowledge.facts.map fun fact => (encoder.code fact : Int)

namespace Knowledge

variable {knowledge : Knowledge} {encoder later : Encoder}

lemma Numbered.grows (hnumbered : knowledge.Numbered encoder) (hfits : knowledge.Fits encoder)
    (h : encoder.Sound) (hlater : later.Sound) (hgrows : encoder.Grows later) :
    knowledge.Numbered later := by
  rw [Numbered, hnumbered]
  refine List.map_congr_left fun fact hfact => ?_
  rw [h.code_grows hlater hgrows (hfits.facts fact hfact)]

lemma Numbered.withFact (hnumbered : knowledge.Numbered encoder) (fact : Fact) :
    (knowledge.withFact fact (encoder.code fact)).Numbered encoder := by
  rw [Numbered] at hnumbered ⊢
  simp [Knowledge.withFact, hnumbered]

/-- **Looking up a number** finds the stored facts that permute the one with this number. -/
lemma Fits.holds_code_iff (hfits : knowledge.Fits encoder) (hnumbered : knowledge.Numbered encoder)
    (h : encoder.Sound) {fact : Fact} (hknows : encoder.Knows fact.concepts) :
    knowledge.holds (encoder.code fact) = true ↔ ∃ stored ∈ knowledge.facts, stored.Permutes fact := by
  rw [holds, hnumbered, List.contains_iff_mem, List.mem_map]
  refine exists_congr fun stored => and_congr_right fun hstored => ?_
  rw [Nat.cast_inj, h.code_eq_iff (hfits.facts stored hstored) hknows]

end Knowledge

namespace Store

/-- **One operation** keeps the stored numbers up to date. -/
lemma Sound.numbered_perform {store : Store} (h : store.Sound)
    (hnumbered : store.knowledge.Numbered store.encoder) (operation : Operation) :
    (store.perform operation).knowledge.Numbered (store.perform operation).encoder := by
  obtain ⟨hsound, hgrows⟩ := h.perform operation
  have hkept := hnumbered.grows h.fits h.encoder hsound.encoder hgrows.encoder
  cases operation with
  | addFact fact =>
      have hasks := Encoder.asks_encodeFact fact
      simp only [Store.perform, Store.addFact] at hkept ⊢
      rcases hrun : (Encoder.encodeFact fact).run.run store.encoder with ⟨error | n, later⟩
      all_goals rw [hrun] at hkept
      · exact hkept
      · obtain ⟨-, hlater, -, hcode⟩ := hasks.knows h.encoder hrun
        obtain rfl : later.code fact = n := by
          simp [Encoder.code, hcode later hlater (Encoder.Grows.refl later)]
        exact hkept.withFact fact
  | addRule proposal =>
      simp only [Store.perform, Store.addRule] at hkept ⊢
      rcases hrun : (Encoder.encodeProposal proposal).run.run store.encoder with ⟨error | rule, later⟩
      all_goals rw [hrun] at hkept; exact hkept
  | call call => exact hkept

/-- **A run of operations**, by induction from the first one. -/
lemma Sound.numbered_performAll {store : Store} (h : store.Sound)
    (hnumbered : store.knowledge.Numbered store.encoder) (operations : List Operation) :
    (store.performAll operations).knowledge.Numbered (store.performAll operations).encoder := by
  induction operations generalizing store with
  | nil => exact hnumbered
  | cons operation operations ih =>
      exact ih (h.perform operation).1 (h.numbered_perform hnumbered operation)

theorem IsReachable.numbered {store : Store} (h : store.IsReachable) :
    store.knowledge.Numbered store.encoder := by
  obtain ⟨sieveLimit, before, operations, rfl⟩ := h
  exact (sound_fresh sieveLimit before).numbered_performAll rfl operations

end Store

/-- **Which facts share a number.**  Let an encoder be used in any way, then encode a fact, then be used in any
way again, then encode a second fact.  If no concept is blank both get a number, and it is the same one exactly
if the facts have the same concepts in some order.  So in every state of a store, what is found under the number
of a fact are the stored facts that permute it. -/
theorem same_number_iff_permutes :
    (∀ (sieveLimit : Int) (before : List Prime.Request) (calls more : List Encoder.Call)
      (first second : Fact), first.IsComplete → second.IsComplete →
      let encoder := (Encoder.fresh sieveLimit before).runAll calls
      ∃ m n : ℕ, encoder.Encodes first m ∧
        (encoder.runAll (.encodeFact first :: more)).Encodes second n ∧
        (m = n ↔ second.Permutes first)) ∧
    (∀ (store : Store) (fact : Fact), store.IsReachable → fact.IsComplete →
      ∃ n : ℕ, store.encoder.Encodes fact n ∧
        (store.knowledge.holds n = true ↔ ∃ stored ∈ store.knowledge.facts, stored.Permutes fact)) := by
  constructor
  · intro sieveLimit before calls more first second hfirst hsecond encoder
    have hsound : encoder.Sound := ((Encoder.sound_fresh sieveLimit before).1.runAll calls).1
    obtain ⟨hready, -, hknows, -⟩ := hsound.ready hfirst
    obtain ⟨hlater, -⟩ := hready.runAll more
    obtain ⟨hlast, hgrows, hknows', -⟩ := hlater.ready hsecond
    have hgrows' := (hready.grows_runAll more).trans hgrows
    rw [Encoder.runAll_encodeFact_cons]
    refine ⟨_, _, hsound.encodes_ready hfirst, hlater.encodes_ready hsecond, ?_⟩
    rw [← hready.code_grows hlast hgrows' hknows, eq_comm]
    exact hlast.code_eq_iff hknows' (hknows.grows hgrows')
  · intro store fact hstore hcomplete
    have h := hstore.sound
    obtain ⟨hready, hgrows, hknows, -⟩ := h.encoder.ready hcomplete
    refine ⟨_, h.encoder.encodes_ready hcomplete, ?_⟩
    exact (h.fits.grows h.encoder hready hgrows).holds_code_iff
      (hstore.numbered.grows h.fits h.encoder hready hgrows) hready hknows

theorem same_number_of_permuted :
    (∃ n : ℕ, ((Encoder.fresh 0 []).runAll [.primeOf "b"]).Encodes ⟨"a", "is", "a"⟩ n ∧
      (((Encoder.fresh 0 []).runAll [.primeOf "b"]).runAll
        [.encodeFact ⟨"a", "is", "a"⟩, .primeOf "c"]).Encodes ⟨"is", " A", "a"⟩ n) ∧
    ∃ n : ℕ, ((Store.fresh 0 []).performAll [.addFact ⟨"b", "is", "c"⟩]).encoder.Encodes
        ⟨"is", "c", "b"⟩ n ∧
      ((Store.fresh 0 []).performAll [.addFact ⟨"b", "is", "c"⟩]).knowledge.holds n = true := by
  obtain ⟨hfacts, hstores⟩ := same_number_iff_permutes
  constructor
  · obtain ⟨m, n, hm, hn, hiff⟩ := hfacts 0 [] [.primeOf "b"] [.primeOf "c"] ⟨"a", "is", "a"⟩
      ⟨"is", " A", "a"⟩ (Fact.isComplete_iff.mpr (by decide +kernel))
      (Fact.isComplete_iff.mpr (by decide +kernel))
    obtain rfl : m = n := hiff.mpr (by decide +kernel)
    exact ⟨m, hm, hn⟩
  · obtain ⟨n, hn, hiff⟩ := hstores ((Store.fresh 0 []).performAll [.addFact ⟨"b", "is", "c"⟩])
      ⟨"is", "c", "b"⟩ ⟨0, [], _, rfl⟩ (Fact.isComplete_iff.mpr (by decide +kernel))
    have hfacts : ((Store.fresh 0 []).performAll [.addFact ⟨"b", "is", "c"⟩]).knowledge.facts =
        [⟨"b", "is", "c"⟩] := by decide +kernel
    refine ⟨n, hn, hiff.mpr ?_⟩
    rw [hfacts]
    exact ⟨⟨"b", "is", "c"⟩, List.mem_singleton_self _, by decide +kernel⟩

end PrimeReasoner
