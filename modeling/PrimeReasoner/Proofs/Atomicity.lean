import PrimeReasoner.Proofs.Collision

/-!
# What a store holds, and what a failure leaves

A fact is kept twice, as it was given and as a number, and a rule is kept as numbers only.  These numbers belong to
a table that goes on growing, and adding may fail at any concept, after others have been entered.

**The invariant.**  Facts and numbers stand side by side (`Knowledge.Numbered`), and every prime in an encoded rule,
be it a field or a factor of a number, is that of a concept (`Encoder.Sound.assigns_of_dvd`,
`Knowledge.Fits.assigns`).

**Failures.**  A store that fails to add something holds what it held before.  The only trace of the attempt are the
concepts before the blank one, as far as they are new (`Store.FailsAt`).
-/

namespace PrimeReasoner

/-! ## The primes of a rule -/

namespace EncodedRule

/-- The primes that stand in an encoded rule. -/
def primes : EncodedRule → List Int
  | .quantified _ variablePrime categoryPrime propertyPrime predicatePrime _ _ =>
    [variablePrime, categoryPrime, propertyPrime, predicatePrime]
  | .standard _ _ => []
  | .unrecognised => []

/-- The numbers of the conditions and of the conclusion. -/
def encodings : EncodedRule → List Int
  | .quantified _ _ _ _ _ condition conclusion => [condition, conclusion]
  | .standard conditions conclusion => conditions ++ [conclusion]
  | .unrecognised => []

end EncodedRule

namespace Encoder

variable {encoder : Encoder} {rule : Rule} {encoded : EncodedRule}

lemma numbers_of_factCode? {fact : Fact} {n : ℕ} (hknows : encoder.Knows fact.concepts)
    (hcode : encoder.factCode? fact = some n) : encoder.Numbers n :=
  ⟨fact, hknows, by rw [code, hcode, Option.getD_some]⟩

/-- A rule is stored with the primes of its concepts and with the numbers of its facts. -/
lemma Sound.rule_numbers (h : encoder.Sound) (hknows : encoder.Knows rule.concepts)
    (hcode : encoder.ruleCode? rule = some encoded) :
    encoded ≠ .unrecognised ∧ (∀ n ∈ encoded.primes, encoder.Assigns n) ∧
      ∀ n ∈ encoded.encodings, encoder.Numbers n := by
  cases rule with
  | quantified quantifier category property =>
      simp only [ruleCode?, Option.bind_eq_bind, Option.bind_eq_some_iff, Option.pure_def,
        Option.some.injEq] at hcode
      obtain ⟨v, hvariable, c, hcategory, p, hproperty, q, hpredicate, x, hcondition, y, hconclusion,
        rfl⟩ := hcode
      have hknows' : encoder.Knows (Fact.of Rule.boundVariable "is" category).concepts ∧
          encoder.Knows (Rule.quantified quantifier category property).conclusion.concepts := by
        constructor
        · intro given hgiven
          exact hknows given (List.mem_append_left _ (List.mem_append_right _ hgiven))
        · intro given hgiven
          exact hknows given (List.mem_append_right _ hgiven)
      refine ⟨by simp, ?_, ?_⟩
      · simp only [EncodedRule.primes, List.forall_mem_cons]
        exact ⟨⟨_, v, rfl, hvariable⟩, ⟨_, c, rfl, hcategory⟩, ⟨_, p, rfl, hproperty⟩,
          ⟨_, q, rfl, hpredicate⟩, by simp⟩
      · simp only [EncodedRule.encodings, List.forall_mem_cons]
        exact ⟨numbers_of_factCode? hknows'.1 hcondition, numbers_of_factCode? hknows'.2 hconclusion,
          by simp⟩
  | standard condition further conclusion =>
      have hreads := h.reads_of_ruleCode? hknows hcode
      rw [h.ruleCode?_standard hknows] at hcode
      obtain rfl := Option.some.inj hcode
      refine ⟨by simp, by simp [EncodedRule.primes], ?_⟩
      intro n hn
      rcases List.mem_append.mp hn with hn | hn
      · exact hreads.1 n hn
      · rw [List.mem_singleton.mp hn]
        exact hreads.2

/-- Every prime that divides the number of a fact is that of a concept. -/
lemma Sound.assigns_of_dvd (h : encoder.Sound) {n : Int} (hnumbers : encoder.Numbers n) {p : ℕ}
    (hp : p.Prime) (hdvd : (p : Int) ∣ n) : encoder.Assigns p := by
  obtain ⟨fact, hknows, rfl⟩ := hnumbers
  obtain ⟨primes, hperm, hprimes⟩ := h.perm_primeFactorsList (h.factCode?_eq hknows)
  have hne : encoder.code fact ≠ 0 := by
    intro hzero
    have hlength := hperm.length_eq.symm.trans hprimes.length_eq
    simp [hzero, Fact.concepts] at hlength
  exact h.assigns_of_mem_primeFactorsList hknows
    ((Nat.mem_primeFactorsList hne).mpr ⟨hp, Int.natCast_dvd_natCast.mp hdvd⟩)

end Encoder

namespace Knowledge

variable {knowledge : Knowledge} {encoder : Encoder}

/-- **The number beside a fact** is the product of the primes of its concepts. -/
lemma Numbered.getElem? (hnumbered : knowledge.Numbered encoder) (hfits : knowledge.Fits encoder)
    (h : encoder.Sound) {i : ℕ} {fact : Fact} (hfact : knowledge.facts[i]? = some fact) :
    ∃ p q r : ℕ, encoder.prime? (normalize fact.subject) = some p ∧
      encoder.prime? (normalize fact.predicate) = some q ∧
      encoder.prime? (normalize fact.object) = some r ∧
      knowledge.encodings[i]? = some ((p * q * r : ℕ) : Int) := by
  have hknows := hfits.facts fact (List.mem_of_getElem? hfact)
  obtain ⟨p, q, r, hp, hq, hr, hcode⟩ := Encoder.factCode?_eq_some_iff.mp (h.factCode?_eq hknows)
  refine ⟨p, q, r, hp, hq, hr, ?_⟩
  rw [hnumbered, List.getElem?_map, hfact, hcode, Option.map_some]

/-- **The primes in a rule** are those of concepts. -/
lemma Fits.assigns (hfits : knowledge.Fits encoder) (h : encoder.Sound) {rule : EncodedRule}
    (hrule : rule ∈ knowledge.rules) :
    rule ≠ .unrecognised ∧ (∀ n ∈ rule.primes, encoder.Assigns n) ∧
      ∀ n ∈ rule.encodings, ∀ p : ℕ, p.Prime → (p : Int) ∣ n → encoder.Assigns p := by
  obtain ⟨source, hknows, hcode⟩ := hfits.rules rule hrule
  obtain ⟨hne, hprimes, hnumbers⟩ := h.rule_numbers hknows hcode
  exact ⟨hne, hprimes, fun n hn p => h.assigns_of_dvd (hnumbers n hn)⟩

end Knowledge

/-! ## Failures -/

/-- What is asked for until a blank concept is met. -/
lemma exists_untilBlank {givens : List String} (h : ∃ given ∈ givens, normalize given = "") :
    ∃ blank after, givens = untilBlank givens ++ blank :: after ∧ normalize blank = "" := by
  induction givens with
  | nil => simp at h
  | cons given givens ih =>
      by_cases hblank : normalize given = ""
      · exact ⟨given, givens, by simp [untilBlank, hblank], hblank⟩
      · obtain ⟨blank, after, hgivens, hafter⟩ := ih (by simpa [hblank] using h)
        refine ⟨blank, after, ?_, hafter⟩
        rw [untilBlank, List.takeWhile_cons_of_pos (by simpa using hblank), List.cons_append, ← untilBlank,
          ← hgivens]

namespace Store

/-- **A failed attempt** to add something with the given concepts.  The contents are as before, and the table has
gained those concepts before the blank one that were not in it yet. -/
structure FailsAt (store : Store) (givens : List String) (later : Store) : Prop where
  knowledge : later.knowledge = store.knowledge
  table : store.encoder.table <+: later.encoder.table
  gained : ∃ before blank after, givens = before ++ blank :: after ∧ normalize blank = "" ∧
    (∀ given ∈ before, normalize given ≠ "") ∧
    later.encoder.concepts = store.encoder.concepts ++
      ((before.map normalize).filter (· ∉ store.encoder.concepts)).eraseDups

variable {store : Store}

/-- An encoding that fails fails at a blank concept. -/
lemma Sound.failsAt_of_asks {α : Type} {m : Encoding α} {givens : List String} {value : Encoder → Option α}
    (h : store.Sound) (hm : Encoder.Asks m givens value) {error : EncodingError} {encoder : Encoder}
    (hrun : m.run.run store.encoder = (.error error, encoder)) :
    store.FailsAt givens { store with encoder } := by
  obtain ⟨-, hgrows⟩ := hm.grows h.encoder
  obtain ⟨-, hconcepts, hresult⟩ := hm store.encoder h.encoder
  rw [hrun] at hgrows hconcepts hresult
  obtain ⟨blank, after, hgivens, hblank⟩ := exists_untilBlank hresult
  have hbefore : ∀ given ∈ untilBlank givens, normalize given ≠ "" := by
    intro given hgiven
    exact ne_blank_of_mem_untilBlank hgiven
  refine ⟨rfl, hgrows, untilBlank givens, blank, after, hgivens, hblank, hbefore, ?_⟩
  rw [← requestAll_eq_append _ hbefore]
  exact hconcepts

lemma Sound.failsAt_addFact (h : store.Sound) {fact : Fact} {error : EncodingError} {later : Store}
    (hadd : store.addFact fact = (.error error, later)) : store.FailsAt fact.concepts later := by
  rw [Store.addFact] at hadd
  split at hadd
  · simp at hadd
  · next hrun =>
    obtain ⟨-, rfl⟩ := Prod.mk.inj hadd
    exact h.failsAt_of_asks (Encoder.asks_encodeFact fact) hrun

lemma Sound.failsAt_addRule (h : store.Sound) {rule : Rule} {error : EncodingError} {later : Store}
    (hadd : store.addRule (.rule rule) = (.error error, later)) : store.FailsAt rule.concepts later := by
  rw [Store.addRule, Encoder.encodeProposal] at hadd
  split at hadd
  · simp at hadd
  · next hrun =>
    obtain ⟨-, rfl⟩ := Prod.mk.inj hadd
    exact h.failsAt_of_asks (Encoder.asks_encodeRule rule) hrun

end Store

/-- **What a store holds, and what a failure leaves.**  In every state of a store, each fact has its number beside it,
the product of the primes that the table has for its concepts; and every prime in a stored rule, or dividing one of
its numbers, is that of a concept in the table.  If a fact or a rule cannot be added, one of its concepts is blank;
the contents are as before, and the table has gained concepts that come before the blank one, and no others.  What is
not a rule is refused, and leaves everything as it was. -/
theorem contents_consistent {store : Store} (hstore : store.IsReachable) :
    store.knowledge.facts.length = store.knowledge.encodings.length ∧
    (∀ (i : ℕ) (fact : Fact), store.knowledge.facts[i]? = some fact →
      ∃ p q r : ℕ, store.encoder.prime? (normalize fact.subject) = some p ∧
        store.encoder.prime? (normalize fact.predicate) = some q ∧
        store.encoder.prime? (normalize fact.object) = some r ∧
        store.knowledge.encodings[i]? = some ((p * q * r : ℕ) : Int)) ∧
    (∀ rule ∈ store.knowledge.rules, rule ≠ .unrecognised ∧
      (∀ n ∈ rule.primes, store.encoder.Assigns n) ∧
      ∀ n ∈ rule.encodings, ∀ p : ℕ, p.Prime → (p : Int) ∣ n → store.encoder.Assigns p) ∧
    (∀ (fact : Fact) (error : EncodingError) (later : Store),
      store.addFact fact = (.error error, later) → store.FailsAt fact.concepts later) ∧
    (∀ (rule : Rule) (error : EncodingError) (later : Store),
      store.addRule (.rule rule) = (.error error, later) → store.FailsAt rule.concepts later) ∧
    (∀ value : Setting, ∃ error, store.addRule (.value value) = (.error error, store)) := by
  have h := hstore.sound
  have hnumbered := hstore.numbered
  refine ⟨?_, ?_, ?_, ?_, ?_, ?_⟩
  · rw [hnumbered, List.length_map]
  · intro i fact hfact
    exact hnumbered.getElem? h.fits h.encoder hfact
  · intro rule hrule
    exact h.fits.assigns h.encoder hrule
  · intro fact error later hadd
    exact h.failsAt_addFact hadd
  · intro rule error later hadd
    exact h.failsAt_addRule hadd
  · intro value
    exact ⟨_, rfl⟩

/-- A store with a fact and both kinds of rules, after a deduction. -/
def filledStore : Store := (Store.fresh 0 []).performAll
  [.addFact ⟨"a", "is", "b"⟩, .addRule (.rule (Rule.all .capability "b" "run")),
    .addRule (.rule (.standard ⟨"a", "is", "b"⟩ [⟨"a", "can", "run"⟩] ⟨"a", "is", "c"⟩)),
    .call (.deduce { machine := .usual } {} ⟨"e", "is", "c"⟩)]

/-- A rule that cannot be added, as the predicate of its conclusion is blank. -/
def blankRule : Rule := .standard ⟨"a", "is", "f"⟩ [⟨"f", "is", "b"⟩] ⟨"g", " ", "h"⟩

theorem contents_consistent_after_failure :
    filledStore.knowledge.facts.length = 1 ∧ filledStore.knowledge.rules.length = 2 ∧
    (∃ p q r : ℕ, filledStore.encoder.prime? "a" = some p ∧ filledStore.encoder.prime? "is" = some q ∧
      filledStore.encoder.prime? "b" = some r ∧
      filledStore.knowledge.encodings[0]? = some ((p * q * r : ℕ) : Int)) ∧
    (∀ rule ∈ filledStore.knowledge.rules, ∀ n ∈ rule.primes, filledStore.encoder.Assigns n) ∧
    filledStore.FailsAt blankRule.concepts (filledStore.addRule (.rule blankRule)).2 := by
  obtain ⟨hfacts, hlength, hadded⟩ : filledStore.knowledge.facts = [⟨"a", "is", "b"⟩] ∧
      filledStore.knowledge.rules.length = 2 ∧
      (filledStore.addRule (.rule blankRule)).1.toOption = none := by decide +kernel
  have hnormal : normalize "a" = "a" ∧ normalize "is" = "is" ∧ normalize "b" = "b" := by decide +kernel
  have hreached : filledStore.IsReachable := ⟨0, [], _, rfl⟩
  obtain ⟨-, hnumbers, hrules, -, hrefused, -⟩ := contents_consistent hreached
  have hproduct := hnumbers 0 _ (by rw [hfacts]; rfl)
  simp only [hnormal.1, hnormal.2.1, hnormal.2.2] at hproduct
  refine ⟨by rw [hfacts]; rfl, hlength, hproduct, fun rule hrule => (hrules rule hrule).2.1, ?_⟩
  rcases hadd : filledStore.addRule (.rule blankRule) with ⟨error | encoded, later⟩
  · exact hrefused blankRule error later hadd
  · simp [hadd, Except.toOption] at hadded

end PrimeReasoner
