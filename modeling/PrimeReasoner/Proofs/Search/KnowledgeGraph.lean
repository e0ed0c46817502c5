import PrimeReasoner.Proofs.Encoder.Coding
import PrimeReasoner.Proofs.Search.Graph

/-!
# Knowledge as a graph of goals

**Fitting knowledge.**  Knowledge fits a table (`Knowledge.Fits`) if the concepts of its facts are in the
table and each of its rules is what the table makes of some rule.  Then all its numbers can be read, and
it still fits when the table has grown.

**The graph.**  `Knowledge.graph` is the graph that the search runs on: its ways come from the statements
about categories, then from the implications, then from the stored facts.  In fitting knowledge, a way to
a goal with known concepts leads to goals with known concepts (`Fits.knows_premises`).
-/

namespace PrimeReasoner

namespace Encoder

/-- The number of a fact with known concepts. -/
def code (encoder : Encoder) (fact : Fact) : ℕ := (encoder.factCode? fact).getD 0

lemma code_congr {encoder later : Encoder} (h : encoder.Same later) : later.code = encoder.code := by
  funext fact
  rw [code, code, factCode?, factCode?, prime?_congr h.table]

lemma Sound.factCode?_eq {encoder : Encoder} (h : encoder.Sound) {fact : Fact}
    (hknows : encoder.Knows fact.concepts) : encoder.factCode? fact = some (encoder.code fact) := by
  obtain ⟨n, -, -, -, hcode⟩ := h.run_encodeFact hknows
  rw [code, hcode, Option.getD_some]

/-- The number is the prime of a concept in the table. -/
def Assigns (encoder : Encoder) (n : Int) : Prop :=
  ∃ (concept : String) (prime : ℕ), n = prime ∧ encoder.prime? concept = some prime

lemma Sound.conceptOf_mem {encoder : Encoder} (h : encoder.Sound) {n : Int}
    (hassigns : encoder.Assigns n) : encoder.conceptOf n ∈ encoder.concepts := by
  obtain ⟨concept, prime, rfl, hprime⟩ := hassigns
  rw [h.conceptOf_eq hprime]
  exact h.mem_concepts hprime

/-- An assigned number keeps its concept. -/
lemma Sound.conceptOf_grows {encoder later : Encoder} (h : encoder.Sound) (hlater : later.Sound)
    (hgrows : encoder.Grows later) {n : Int} (hassigns : encoder.Assigns n) :
    later.conceptOf n = encoder.conceptOf n := by
  obtain ⟨concept, prime, rfl, hprime⟩ := hassigns
  rw [h.conceptOf_eq hprime, hlater.conceptOf_eq (prime?_of_grows hlater hgrows h hprime)]

/-- The number is that of a fact whose concepts are in the table. -/
def Numbers (encoder : Encoder) (n : Int) : Prop :=
  ∃ fact : Fact, encoder.Knows fact.concepts ∧ n = encoder.code fact

/-- A fact that is read from its number has known concepts. -/
lemma Sound.fact?_of_numbers {encoder : Encoder} (h : encoder.Sound) {n : Int}
    (hnumbers : encoder.Numbers n) :
    ∃ fact, encoder.fact? n = some fact ∧ encoder.Knows fact.concepts := by
  obtain ⟨fact, hknows, rfl⟩ := hnumbers
  obtain ⟨read, hread, hperm⟩ := h.exists_fact? (h.factCode?_eq hknows)
  refine ⟨read, hread, fun concept hconcept => ?_⟩
  obtain ⟨given, hgiven, rfl⟩ := List.mem_map.mp (hperm.mem_iff.mp hconcept)
  rw [normalize_normalize]
  exact hknows given hgiven

lemma Sound.code_grows {encoder later : Encoder} (h : encoder.Sound) (hlater : later.Sound)
    (hgrows : encoder.Grows later) {fact : Fact} (hknows : encoder.Knows fact.concepts) :
    later.code fact = encoder.code fact := by
  rw [code, code, (asks_encodeFact fact).stable h hknows hlater hgrows]

/-- Every factor of the number of a fact is the prime of a concept. -/
lemma Sound.assigns_of_mem_primeFactorsList {encoder : Encoder} (h : encoder.Sound) {fact : Fact}
    (hknows : encoder.Knows fact.concepts) {p : ℕ} (hp : p ∈ (encoder.code fact).primeFactorsList) :
    encoder.Assigns p := by
  obtain ⟨primes, hperm, hprimes⟩ := h.perm_primeFactorsList (h.factCode?_eq hknows)
  have hassigns : (∀ p ∈ primes, encoder.Assigns p) ∧ _ := (List.forall₂_and_left primes _).mp
    (hprimes.imp fun p concept hprime => ⟨⟨_, p, rfl, hprime⟩, hprime⟩)
  exact hassigns.1 p (hperm.mem_iff.mpr hp)

/-- The number of a fact is read as before. -/
lemma Sound.fact?_grows {encoder later : Encoder} (h : encoder.Sound) (hlater : later.Sound)
    (hgrows : encoder.Grows later) {n : Int} (hnumbers : encoder.Numbers n) :
    later.fact? n = encoder.fact? n := by
  obtain ⟨fact, hknows, rfl⟩ := hnumbers
  have hconcept : ∀ p ∈ (encoder.code fact).primeFactorsList,
      later.conceptOf p = encoder.conceptOf p := fun p hp =>
    h.conceptOf_grows hlater hgrows (h.assigns_of_mem_primeFactorsList hknows hp)
  unfold fact?
  rw [Int.toNat_natCast]
  rcases hfactors : (encoder.code fact).primeFactorsList with _ | ⟨a, _ | ⟨b, _ | ⟨c, _ | ⟨d, rest⟩⟩⟩⟩
  · rfl
  · rfl
  · rfl
  · rw [hfactors] at hconcept
    dsimp only
    rw [hconcept a (by simp), hconcept b (by simp), hconcept c (by simp)]
  · rfl

end Encoder

/-- The numbers of an encoded rule can be read in the table. -/
def EncodedRule.Reads (encoder : Encoder) : EncodedRule → Prop
  | .quantified _ _ categoryPrime propertyPrime predicatePrime _ _ =>
    encoder.Assigns categoryPrime ∧ encoder.Assigns propertyPrime ∧ encoder.Assigns predicatePrime ∧
      normalize "is" ∈ encoder.concepts
  | .standard conditions conclusion =>
    (∀ condition ∈ conditions, encoder.Numbers condition) ∧ encoder.Numbers conclusion
  | .unrecognised => False

lemma EncodedRule.Reads.same {encoder later : Encoder} {rule : EncodedRule} (h : rule.Reads encoder)
    (hsame : encoder.Same later) : rule.Reads later := by
  cases rule with
  | quantified _ _ _ _ _ _ _ =>
      simp only [Reads, Encoder.Assigns, Encoder.prime?_congr hsame.table,
        Encoder.concepts_congr hsame.table]
      exact h
  | standard _ _ =>
      simp only [Reads, Encoder.Numbers, Encoder.Knows, Encoder.code_congr hsame,
        Encoder.concepts_congr hsame.table]
      exact h
  | unrecognised => exact h

namespace Encoder

lemma Sound.factCodes?_eq {encoder : Encoder} (h : encoder.Sound) {facts : List Fact}
    (hknows : encoder.Knows (facts.flatMap Fact.concepts)) :
    encoder.factCodes? facts = some (facts.map fun fact => (encoder.code fact : Int)) := by
  induction facts with
  | nil => rfl
  | cons fact facts ih =>
      have hfirst : encoder.Knows fact.concepts := fun given hgiven =>
        hknows given (List.mem_append_left _ hgiven)
      have hrest : encoder.Knows (facts.flatMap Fact.concepts) := fun given hgiven =>
        hknows given (List.mem_append_right _ hgiven)
      simp [factCodes?, h.factCode?_eq hfirst, ih hrest]

/-- An implication is encoded by the numbers of its facts. -/
lemma Sound.ruleCode?_standard {encoder : Encoder} (h : encoder.Sound) {condition conclusion : Fact}
    {further : List Fact} (hknows : encoder.Knows (Rule.standard condition further conclusion).concepts) :
    encoder.ruleCode? (.standard condition further conclusion) =
      some (.standard ((condition :: further).map fun fact => (encoder.code fact : Int))
        (encoder.code conclusion)) := by
  have hconditions : encoder.Knows ((condition :: further).flatMap Fact.concepts) :=
    fun given hgiven => hknows given (List.mem_append_left _ hgiven)
  have hconclusion : encoder.Knows conclusion.concepts :=
    fun given hgiven => hknows given (List.mem_append_right _ hgiven)
  simp [ruleCode?, h.factCodes?_eq hconditions, h.factCode?_eq hconclusion]

/-- What a table makes of a rule can be read in it. -/
lemma Sound.reads_of_ruleCode? {encoder : Encoder} (h : encoder.Sound) {rule : Rule}
    {encoded : EncodedRule} (hknows : encoder.Knows rule.concepts)
    (hcode : encoder.ruleCode? rule = some encoded) : encoded.Reads encoder := by
  cases rule with
  | quantified quantifier category property =>
      have his : normalize "is" ∈ encoder.concepts := by
        rw [← normalize_normalize]
        exact hknows _ (by simp [Rule.concepts, Fact.concepts, Fact.of])
      simp only [ruleCode?, Option.bind_eq_bind, Option.bind_eq_some_iff, Option.pure_def,
        Option.some.injEq] at hcode
      obtain ⟨_, _, categoryPrime, hcategory, propertyPrime, hproperty, predicatePrime, hpredicate,
        _, _, _, _, rfl⟩ := hcode
      exact ⟨⟨_, _, rfl, hcategory⟩, ⟨_, _, rfl, hproperty⟩, ⟨_, _, rfl, hpredicate⟩, his⟩
  | standard condition further conclusion =>
      rw [h.ruleCode?_standard hknows] at hcode
      obtain rfl := Option.some.inj hcode
      refine ⟨fun n hn => ?_, conclusion, fun given hgiven =>
        hknows given (List.mem_append_right _ hgiven), rfl⟩
      obtain ⟨fact, hfact, rfl⟩ := List.mem_map.mp hn
      exact ⟨fact, fun given hgiven => hknows given (List.mem_append_left _
        (List.mem_flatMap.mpr ⟨fact, hfact, hgiven⟩)), rfl⟩

end Encoder

/-! ## Fitting knowledge -/

/-- **The numbers of the knowledge belong to the table.** -/
structure Knowledge.Fits (knowledge : Knowledge) (encoder : Encoder) : Prop where
  facts : ∀ fact ∈ knowledge.facts, encoder.Knows fact.concepts
  /-- A rule is what the table makes of some rule. -/
  rules : ∀ encoded ∈ knowledge.rules, ∃ rule : Rule, encoder.Knows rule.concepts ∧
    encoder.ruleCode? rule = some encoded

namespace Knowledge.Fits

variable {knowledge : Knowledge} {encoder later : Encoder}

lemma empty (encoder : Encoder) : Knowledge.Fits {} encoder := ⟨by simp, by simp⟩

/-- Knowledge fits larger tables too. -/
lemma grows (h : knowledge.Fits encoder) (hsound : encoder.Sound) (hlater : later.Sound)
    (hgrows : encoder.Grows later) : knowledge.Fits later := by
  refine ⟨fun fact hfact => (h.facts fact hfact).grows hgrows, fun encoded hencoded => ?_⟩
  obtain ⟨rule, hknows, hcode⟩ := h.rules encoded hencoded
  refine ⟨rule, hknows.grows hgrows, ?_⟩
  rw [(Encoder.asks_encodeRule rule).stable hsound hknows hlater hgrows]
  exact hcode

lemma reads (h : knowledge.Fits encoder) (hsound : encoder.Sound) {encoded : EncodedRule}
    (hencoded : encoded ∈ knowledge.rules) : encoded.Reads encoder := by
  obtain ⟨rule, hknows, hcode⟩ := h.rules encoded hencoded
  exact hsound.reads_of_ruleCode? hknows hcode

end Knowledge.Fits

/-! ## The graph -/

/-- The way to a goal through a statement about a category that has the goal's predicate and object. -/
def memberWay? (encoder : Encoder) (goal : Fact) : EncodedRule → Option Way
  | .quantified quantifier _ categoryPrime propertyPrime predicatePrime _ _ =>
    if goal.predicate = encoder.conceptOf predicatePrime ∧
        goal.object = encoder.conceptOf propertyPrime then
      some (.member quantifier (encoder.conceptOf categoryPrime) (encoder.conceptOf propertyPrime))
    else none
  | _ => none

/-- The way to a goal through an implication whose conclusion has the goal's number. -/
def impliedWay? (encoder : Encoder) (code : ℕ) : EncodedRule → Option Way
  | .standard conditions conclusion =>
    if conclusion = code then some (.implied (conditions.filterMap encoder.fact?)) else none
  | _ => none

/-- The way to a goal through a stored fact with the goal's subject and predicate. -/
def linkedWay? (goal stored : Fact) : Option Way :=
  if stored.subject = goal.subject ∧ stored.predicate = goal.predicate then
    some (.linked stored.object)
  else none

/-- The stored facts that may be followed to a goal. -/
def Knowledge.links (knowledge : Knowledge) (goal : Fact) : List Fact :=
  if isTransitive goal.predicate then knowledge.facts else []

/-- The graph of the goals over some knowledge, read in a table. -/
def Knowledge.graph (knowledge : Knowledge) (encoder : Encoder) : Graph where
  code := encoder.code
  holds n := knowledge.holds n
  ways goal :=
    knowledge.rules.filterMap (memberWay? encoder goal) ++
    (knowledge.rules.filterMap (impliedWay? encoder (encoder.code goal)) ++
    (knowledge.links goal).filterMap (linkedWay? goal))

/-- **The ways to a goal**, one case for each kind. -/
lemma Knowledge.mem_ways {knowledge : Knowledge} {encoder : Encoder} {goal : Fact} {way : Way} :
    way ∈ (knowledge.graph encoder).ways goal ↔
      (∃ quantifier v c p q x y, .quantified quantifier v c p q x y ∈ knowledge.rules ∧
        goal.predicate = encoder.conceptOf q ∧ goal.object = encoder.conceptOf p ∧
        way = .member quantifier (encoder.conceptOf c) (encoder.conceptOf p)) ∨
      (∃ conditions, .standard conditions (encoder.code goal) ∈ knowledge.rules ∧
        way = .implied (conditions.filterMap encoder.fact?)) ∨
      (isTransitive goal.predicate ∧ ∃ stored ∈ knowledge.facts, stored.subject = goal.subject ∧
        stored.predicate = goal.predicate ∧ way = .linked stored.object) := by
  simp only [graph, List.mem_append, List.mem_filterMap]
  refine or_congr ?_ (or_congr ?_ ?_)
  · constructor
    · rintro ⟨rule, hrule, hway⟩
      cases rule with
      | quantified quantifier v c p q x y =>
          simp only [memberWay?, Option.ite_none_right_eq_some, Option.some.injEq] at hway
          obtain ⟨⟨hpredicate, hobject⟩, rfl⟩ := hway
          exact ⟨quantifier, v, c, p, q, x, y, hrule, hpredicate, hobject, rfl⟩
      | standard _ _ => simp [memberWay?] at hway
      | unrecognised => simp [memberWay?] at hway
    · rintro ⟨quantifier, v, c, p, q, x, y, hrule, hpredicate, hobject, rfl⟩
      exact ⟨_, hrule, by rw [memberWay?, if_pos ⟨hpredicate, hobject⟩]⟩
  · constructor
    · rintro ⟨rule, hrule, hway⟩
      cases rule with
      | quantified _ _ _ _ _ _ _ => simp [impliedWay?] at hway
      | standard conditions conclusion =>
          simp only [impliedWay?, Option.ite_none_right_eq_some, Option.some.injEq] at hway
          obtain ⟨rfl, rfl⟩ := hway
          exact ⟨conditions, hrule, rfl⟩
      | unrecognised => simp [impliedWay?] at hway
    · rintro ⟨conditions, hrule, rfl⟩
      exact ⟨_, hrule, by rw [impliedWay?, if_pos rfl]⟩
  · unfold links
    split_ifs with htransitive
    · simp only [linkedWay?, Option.ite_none_right_eq_some, Option.some.injEq, htransitive, true_and]
      constructor
      · rintro ⟨stored, hstored, ⟨hsubject, hpredicate⟩, rfl⟩
        exact ⟨stored, hstored, hsubject, hpredicate, rfl⟩
      · rintro ⟨stored, hstored, hsubject, hpredicate, rfl⟩
        exact ⟨stored, hstored, ⟨hsubject, hpredicate⟩, rfl⟩
    · simp [htransitive]

/-- The graph depends on the table only. -/
lemma Knowledge.graph_congr {knowledge : Knowledge} {encoder later : Encoder}
    (h : encoder.Same later) : knowledge.graph later = knowledge.graph encoder := by
  have hmember : memberWay? later = memberWay? encoder := by
    funext goal rule
    cases rule <;> simp only [memberWay?, Encoder.conceptOf_congr h.table]
  have himplied : impliedWay? later = impliedWay? encoder := by
    funext code rule
    cases rule <;> simp only [impliedWay?, Encoder.fact?_congr h]
  rw [graph, graph, Encoder.code_congr h, hmember, himplied]

namespace Encoder

/-- A fact built from known concepts is known. -/
lemma knows_of {encoder : Encoder} {subject predicate object : String}
    (hsubject : normalize subject ∈ encoder.concepts)
    (hpredicate : normalize predicate ∈ encoder.concepts)
    (hobject : normalize object ∈ encoder.concepts) :
    encoder.Knows (Fact.of subject predicate object).concepts := by
  intro given hgiven
  simp only [Fact.concepts, Fact.of, List.mem_cons, List.not_mem_nil, or_false] at hgiven
  rcases hgiven with rfl | rfl | rfl <;> rw [normalize_normalize]
  · exact hsubject
  · exact hpredicate
  · exact hobject

lemma Sound.normalize_mem {encoder : Encoder} (h : encoder.Sound) {concept : String}
    (hmem : concept ∈ encoder.concepts) : normalize concept ∈ encoder.concepts := by
  rwa [(h.normal concept hmem).1]

end Encoder

/-- **Known goals lead to known goals.** -/
lemma Knowledge.Fits.knows_premises {knowledge : Knowledge} {encoder : Encoder}
    (h : knowledge.Fits encoder) (hsound : encoder.Sound) {goal : Fact}
    (hgoal : encoder.Knows goal.concepts) {way : Way}
    (hway : way ∈ (knowledge.graph encoder).ways goal) :
    ∀ premise ∈ way.premises goal, encoder.Knows premise.concepts := by
  have hsubject := hgoal goal.subject (by simp [Fact.concepts])
  have hpredicate := hgoal goal.predicate (by simp [Fact.concepts])
  have hobject := hgoal goal.object (by simp [Fact.concepts])
  intro premise hpremise
  rcases Knowledge.mem_ways.mp hway with ⟨_, _, c, _, _, _, _, hrule, -, -, rfl⟩ |
    ⟨conditions, hrule, rfl⟩ | ⟨-, stored, hstored, -, -, rfl⟩
  · obtain ⟨hcategory, -, -, his⟩ := h.reads hsound hrule
    obtain rfl := List.mem_singleton.mp hpremise
    exact Encoder.knows_of hsubject his (hsound.normalize_mem (hsound.conceptOf_mem hcategory))
  · obtain ⟨n, hn, hread⟩ := List.mem_filterMap.mp hpremise
    obtain ⟨fact, hfact, hknows⟩ := hsound.fact?_of_numbers ((h.reads hsound hrule).1 n hn)
    rw [hfact] at hread
    exact Option.some.inj hread ▸ hknows
  · obtain rfl := List.mem_singleton.mp hpremise
    exact Encoder.knows_of (h.facts stored hstored stored.object (by simp [Fact.concepts]))
      hpredicate hobject

end PrimeReasoner
