import PrimeReasoner.Proofs.Listing

/-!
# Listings only grow

The sentences of the rules are made anew at every listing, from numbers, through a table that has grown since
the rules were stored.  An entry that was listed once is listed the same way ever after, in the same place
(`listings_append_only`).

**Settled sentences.**  The order of known concepts does not change any more, so a rule whose concepts are known
is arranged in every later table as in this one (`Encoder.Sound.arrangeRule_grows`).

**Longer records.**  What a store comes from is the beginning of what a later store comes from
(`Store.Records.extend`).  This says which entry of the later listing belongs to which rule.
-/

namespace PrimeReasoner

namespace Encoder

variable {encoder later : Encoder}

/-- The second fact has the concepts of the first one, in the order in which they were first asked for. -/
def Arranges (encoder : Encoder) (fact read : Fact) : Prop :=
  read.concepts.Perm (fact.concepts.map normalize) ∧ (read.concepts.map encoder.concepts.idxOf).SortedLE

lemma arranges_arrange (encoder : Encoder) (fact : Fact) : encoder.Arranges fact (encoder.arrange fact) :=
  ⟨encoder.perm_concepts_arrange fact,
    (List.pairwise_map.mpr (encoder.pairwise_concepts_arrange fact)).sortedLE⟩

lemma arrangeRule_all (encoder : Encoder) (quantifier : Quantifier) (category property : String) :
    encoder.arrangeRule (Rule.all quantifier category property) = Rule.all quantifier category property := by
  simp [arrangeRule, Rule.all]

/-- **The sentence of a rule with known concepts is settled.** -/
lemma Sound.arrangeRule_grows (h : encoder.Sound) (hlater : later.Sound) (hgrows : encoder.Grows later)
    {rule : Rule} (hknows : encoder.Knows rule.concepts) :
    later.arrangeRule rule = encoder.arrangeRule rule := by
  cases rule with
  | quantified quantifier category property => rfl
  | standard condition further conclusion =>
      have hfact : ∀ fact ∈ condition :: further, later.arrange fact = encoder.arrange fact := by
        intro fact hfact
        have hknown : encoder.Knows ((condition :: further).flatMap Fact.concepts) := by
          intro given hgiven
          exact hknows given (List.mem_append_left _ hgiven)
        exact h.arrange_grows hlater hgrows (hknown.of_mem_flatMap hfact)
      have hconclusion : later.arrange conclusion = encoder.arrange conclusion := by
        apply h.arrange_grows hlater hgrows
        intro given hgiven
        exact hknows given (List.mem_append_right _ hgiven)
      rw [List.forall_mem_cons] at hfact
      simp only [arrangeRule, hfact.1, List.map_congr_left hfact.2, hconclusion]

end Encoder

namespace Store

variable {store later : Store} {facts : List Fact} {rules : List Rule}

/-- The sentences of the rules that the store holds. -/
def listing (store : Store) : List String := (store.ruleTexts store.knowledge).1

/-- Rules that fit the table all come from somewhere. -/
lemma exists_represented {encoder : Encoder} {encoded : List EncodedRule}
    (h : ∀ rule ∈ encoded, ∃ source, encoder.Represents source rule) :
    ∃ sources, List.Forall₂ encoder.Represents sources encoded := by
  induction encoded with
  | nil => exact ⟨[], .nil⟩
  | cons rule encoded ih =>
      rw [List.forall_mem_cons] at h
      obtain ⟨source, hsource⟩ := h.1
      obtain ⟨sources, hsources⟩ := ih h.2
      exact ⟨source :: sources, .cons hsource hsources⟩

lemma Sound.represented (h : store.Sound) :
    ∀ encoded ∈ store.knowledge.rules, ∃ rule, store.encoder.Represents rule encoded := by
  intro encoded hencoded
  obtain ⟨rule, hknows, hcode⟩ := h.fits.rules encoded hencoded
  exact ⟨rule, hknows, hcode⟩

lemma Sound.exists_records (h : store.Sound) : ∃ rules, store.Records store.knowledge.facts rules := by
  obtain ⟨rules, hrules⟩ := exists_represented h.represented
  exact ⟨rules, rfl, hrules⟩

/-- **A later store comes from the same rules and more.** -/
lemma Records.extend (h : store.Records facts rules) (hstore : store.Sound) (hlater : later.Sound)
    (hgrows : store.Grows later) :
    ∃ more, later.Records later.knowledge.facts (rules ++ more) := by
  obtain ⟨added, hadded⟩ := hgrows.rules
  have hnew : ∀ encoded ∈ added, ∃ rule, later.encoder.Represents rule encoded := by
    intro encoded hencoded
    apply hlater.represented
    rw [← hadded]
    exact List.mem_append_right _ hencoded
  obtain ⟨more, hmore⟩ := exists_represented hnew
  have hold : List.Forall₂ later.encoder.Represents rules store.knowledge.rules :=
    h.rules.imp fun _ _ hrule => hrule.grows hstore.encoder hlater.encoder hgrows.encoder
  refine ⟨more, rfl, ?_⟩
  rw [← hadded]
  exact List.rel_append hold hmore

/-- Only rules without blank concepts are stored. -/
lemma Sound.isComplete_of_addRule (h : store.Sound) {rule : Rule} {encoded : EncodedRule}
    (hadd : (store.addRule (.rule rule)).1 = .ok encoded) : rule.IsComplete := by
  obtain ⟨-, -, hresult⟩ := Encoder.asks_encodeRule rule _ h.encoder
  rw [Store.addRule, Encoder.encodeProposal] at hadd
  rcases hrun : (Encoder.encodeRule rule).run.run store.encoder with ⟨error | encoded, later⟩
  all_goals rw [hrun] at hadd hresult
  · simp at hadd
  · exact hresult.1

lemma Records.knows (h : store.Records facts rules) :
    ∀ rule ∈ rules, store.encoder.Knows rule.concepts := by
  have hboth := h.rules.imp fun rule encoded hrule => And.intro hrule.knows hrule
  exact ((List.forall₂_and_left rules _).mp hboth).1

/-- **An earlier listing is the beginning of a later one.** -/
lemma Sound.listing_prefix (hstore : store.Sound) (hlater : later.Sound) (hgrows : store.Grows later) :
    store.listing <+: later.listing := by
  obtain ⟨rules, hrecords⟩ := hstore.exists_records
  obtain ⟨more, hmore⟩ := hrecords.extend hstore hlater hgrows
  have hsettled : rules.map (fun rule => (later.encoder.arrangeRule rule).text) =
      rules.map fun rule => (store.encoder.arrangeRule rule).text := by
    refine List.map_congr_left fun rule hrule => ?_
    rw [hstore.encoder.arrangeRule_grows hlater.encoder hgrows.encoder (hrecords.knows rule hrule)]
  rw [listing, listing, hrecords.ruleTexts hstore, hmore.ruleTexts hlater, List.map_append, hsettled]
  exact List.prefix_append _ _

/-- **The entry of a rule** in every listing after it was stored, in the place that was free then. -/
lemma Sound.listing_of_addRule (hstore : store.Sound) {rule : Rule} {encoded : EncodedRule}
    (hadd : (store.addRule (.rule rule)).1 = .ok encoded) (operations : List Operation) :
    let later := (store.addRule (.rule rule)).2.performAll operations
    later.listing[store.knowledge.rules.length]? = some (later.encoder.arrangeRule rule).text := by
  intro later
  obtain ⟨rules, hrecords⟩ := hstore.exists_records
  have hadded := hrecords.addRule hstore (hstore.isComplete_of_addRule hadd)
  have hsound := (hstore.addRule (.rule rule)).1
  obtain ⟨hlater, hgrows⟩ := hsound.performAll operations
  obtain ⟨more, hmore⟩ := hadded.extend hsound hlater hgrows
  have hlength : rules.length = store.knowledge.rules.length := hrecords.rules.length_eq
  rw [listing, hmore.ruleTexts hlater, ← hlength]
  simp [later]

lemma Sound.unreadable_notMem_listing (h : store.Sound) : unreadableRule ∉ store.listing := by
  obtain ⟨texts, later, hrun, -, -, hreadable⟩ :=
    run_describeAll h.encoder fun rule hrule => h.fits.reads h.encoder hrule
  rw [listing, ruleTexts, hrun]
  exact hreadable

end Store

/-- **Listings only grow.**  Whatever is done with a store in any state, its phrases and sentences so far remain the
beginning of the listing, and no rule is ever unreadable.  A rule that is stored gets the next place in the listing
and keeps it.  A statement about a category is listed there as it reads.  An implication is listed as one of the same
form, each of whose facts has the concepts of the given one in the order in which they were first asked for. -/
theorem listings_append_only {store : Store} (hstore : store.IsReachable) (operations : List Store.Operation) :
    store.knowledge.factTexts <+: (store.performAll operations).knowledge.factTexts ∧
    store.listing <+: (store.performAll operations).listing ∧
    unreadableRule ∉ (store.performAll operations).listing ∧
    (∀ (quantifier : Quantifier) (category property : String) (encoded : EncodedRule),
      let rule := Rule.all quantifier category property
      let later := (store.addRule (.rule rule)).2.performAll operations
      (store.addRule (.rule rule)).1 = .ok encoded →
        later.listing[store.knowledge.rules.length]? = some rule.text) ∧
    (∀ (condition : Fact) (further : List Fact) (conclusion : Fact) (encoded : EncodedRule),
      let rule := Rule.standard condition further conclusion
      let later := (store.addRule (.rule rule)).2.performAll operations
      (store.addRule (.rule rule)).1 = .ok encoded →
        ∃ (conditions' : List Fact) (conclusion' : Fact),
          List.Forall₂ later.encoder.Arranges (condition :: further) conditions' ∧
          later.encoder.Arranges conclusion conclusion' ∧
          later.listing[store.knowledge.rules.length]? = some (implicationText conditions' conclusion')) := by
  have h := hstore.sound
  obtain ⟨hlater, hgrows⟩ := h.performAll operations
  refine ⟨hgrows.facts.map Fact.text, h.listing_prefix hlater hgrows, hlater.unreadable_notMem_listing, ?_, ?_⟩
  · intro quantifier category property encoded rule later hadd
    have hkept : later.encoder.arrangeRule rule = rule :=
      later.encoder.arrangeRule_all quantifier category property
    calc later.listing[store.knowledge.rules.length]?
      _ = some (later.encoder.arrangeRule rule).text := h.listing_of_addRule hadd operations
      _ = some rule.text := by rw [hkept]
  · intro condition further conclusion encoded rule later hadd
    refine ⟨(condition :: further).map later.encoder.arrange, later.encoder.arrange conclusion, ?_,
      later.encoder.arranges_arrange conclusion, h.listing_of_addRule hadd operations⟩
    rw [List.forall₂_map_right_iff, List.forall₂_same]
    exact fun fact _ => later.encoder.arranges_arrange fact

/-- A store that holds one rule, and knows the object of an implication before its subject. -/
def ruledStore : Store := (Store.fresh 0 []).performAll
  [.addRule (.rule (Rule.all .universal "Cat" "pet")), .call (.primeOf "b")]

/-- What is done afterwards: a fact is stored, a call fails, and a question with new concepts is answered. -/
def ruledUses : List Store.Operation :=
  [.addFact ⟨"a", "is", "cat"⟩, .call (.primeOf " "),
    .call (.deduce { machine := .usual } ruledStore.knowledge ⟨"e", "is", "pet"⟩)]

/-- The store that is left if a rule is stored before all this. -/
def usedAfter (rule : Rule) : Store := (ruledStore.addRule (.rule rule)).2.performAll ruledUses

theorem listed_after_uses :
    ruledStore.listing <+: (ruledStore.performAll ruledUses).listing ∧
    (usedAfter (Rule.all .capability "Cat" "run")).listing[1]? = some "All cat can run" ∧
    ∃ conditions' conclusion',
      List.Forall₂ (usedAfter (.standard ⟨"a", "is", "b"⟩ [] ⟨"c", "is", "a"⟩)).encoder.Arranges
        [⟨"a", "is", "b"⟩] conditions' ∧
      (usedAfter (.standard ⟨"a", "is", "b"⟩ [] ⟨"c", "is", "a"⟩)).listing[1]? =
        some (implicationText conditions' conclusion') := by
  have htext : (Rule.all .capability "Cat" "run").text = "All cat can run" := by decide +kernel
  obtain ⟨hplace, hadded, hadded'⟩ : ruledStore.knowledge.rules.length = 1 ∧
      (ruledStore.addRule (.rule (Rule.all .capability "Cat" "run"))).1.toOption.isSome ∧
      (ruledStore.addRule (.rule (.standard ⟨"a", "is", "b"⟩ [] ⟨"c", "is", "a"⟩))).1.toOption.isSome := by
    decide +kernel
  obtain ⟨first, hfirst⟩ := Option.isSome_iff_exists.mp hadded
  obtain ⟨second, hsecond⟩ := Option.isSome_iff_exists.mp hadded'
  obtain ⟨-, hgrows, -, hquantified, hstandard⟩ := listings_append_only ⟨0, [], _, rfl⟩ ruledUses
  have hentry := hquantified .capability "Cat" "run" first (eq_ok_of_toOption hfirst)
  obtain ⟨conditions', conclusion', hconditions, -, hentry'⟩ :=
    hstandard ⟨"a", "is", "b"⟩ [] ⟨"c", "is", "a"⟩ second (eq_ok_of_toOption hsecond)
  rw [← htext, ← hplace]
  exact ⟨hgrows, hentry, conditions', conclusion', hconditions, hentry'⟩

end PrimeReasoner
