import Mathlib.Logic.Relation
import PrimeReasoner.Proofs.Derivability

/-!
# Implications with one condition

If every stored implication has a single condition, every way to a goal leads to exactly one further goal, and
a derivation is a path.  Whether a goal can be derived is then a matter of reachability: from the goal, along
the statements, implications and facts that are stored (`Knowledge.Leads`), to a goal whose number is stored
(`Graph.IsLinear.derives_iff`).

**Visited goals.**  The search refuses a goal that it has met before, as it always does.  Here this is harmless,
if goals can be told by their phrases: a goal that was met before has been tried in vain, or the search would
have ended with it (`Graph.IsLinear.holds_answer_iff`).  So the answer is yes exactly if the goal can be derived,
unless the search was cut off (`holds_iff_reaches`).
-/

namespace PrimeReasoner

namespace Graph

variable {graph : Graph} {domain : Fact → Prop} {goal : Fact}

/-- **A derivation is a path**, if every way has one premise. -/
lemma IsLinear.derives_iff (hlinear : graph.IsLinear domain) {leads : Fact → Fact → Prop}
    {stored : Fact → Prop}
    (hleads : ∀ goal, domain goal → ∀ premise, leads goal premise ↔
      ∃ way ∈ graph.ways goal, premise ∈ way.premises goal)
    (hstored : ∀ goal, domain goal → (stored goal ↔ graph.holds (graph.code goal) = true))
    (hdomain : domain goal) :
    graph.Derives goal ↔ ∃ target, Relation.ReflTransGen leads goal target ∧ stored target := by
  constructor
  · -- the only premise of a way is the next goal of the path
    intro hderives
    induction hderives with
    | @held goal hholds => exact ⟨goal, .refl, (hstored goal hdomain).mpr hholds⟩
    | @way goal way hway _ ih =>
        obtain ⟨premise, hpremises, hpremise⟩ := hlinear goal hdomain way hway
        have hmem : premise ∈ way.premises goal := by simp [hpremises]
        obtain ⟨target, hpath, htarget⟩ := ih premise hmem hpremise
        exact ⟨target, .head ((hleads goal hdomain premise).mpr ⟨way, hway, hmem⟩) hpath, htarget⟩
  · rintro ⟨target, hpath, htarget⟩
    induction hpath using Relation.ReflTransGen.head_induction_on with
    | refl => exact .held ((hstored target hdomain).mp htarget)
    | @head goal premise hstep _ ih =>
        obtain ⟨way, hway, hmem⟩ := (hleads goal hdomain premise).mp hstep
        obtain ⟨only, hpremises, honly⟩ := hlinear goal hdomain way hway
        rw [hpremises, List.mem_singleton] at hmem
        subst hmem
        exact .way hway (by simpa [hpremises] using ih honly)

/-- **The answer is right**, if every way has one premise and goals can be told by their phrases. -/
lemma IsLinear.holds_answer_iff (hlinear : graph.IsLinear domain) {limit : Int} {levels : ℕ}
    (hphrases : ∀ goal other, domain goal → domain other → goal.text = other.text → goal = other)
    (hdomain : domain goal) (hcutoffs : (graph.answer limit levels goal).2.cutoffs = 0) :
    (graph.answer limit levels goal).1.holds = true ↔ graph.Derives goal := by
  refine ⟨derives_of_answer, fun hderives => ?_⟩
  cases hanswer : (graph.answer limit levels goal).1 with
  | proved derivation => rfl
  | refused reason =>
      obtain ⟨hrefused, hunmoved⟩ := search_of_answer hanswer hcutoffs
      obtain ⟨hvisited, hexhausted⟩ := exhausts_search hlinear goal {} reason hdomain hrefused hunmoved
      exact absurd hderives (hexhausted.not_derives hphrases hdomain hvisited)

end Graph

/-! ## The steps of the calculus -/

/-- **One step** from a goal to a premise of it, by what is stored. -/
inductive Knowledge.Leads (encoder : Encoder) (knowledge : Knowledge) (goal : Fact) : Fact → Prop where
  /-- A statement about a category has the goal's predicate and object. -/
  | member {quantifier : Quantifier} {v c p q x y : Int}
      (hrule : .quantified quantifier v c p q x y ∈ knowledge.rules)
      (hpredicate : goal.predicate = encoder.conceptOf q) (hobject : goal.object = encoder.conceptOf p) :
      Leads encoder knowledge goal (Fact.of goal.subject "is" (encoder.conceptOf c))
  /-- The conclusion of an implication has the goal's number. -/
  | implied {n : ℕ} {conditions : List Int} {condition : Int} {premise : Fact}
      (hgoal : encoder.Encodes goal n) (hrule : .standard conditions n ∈ knowledge.rules)
      (hcondition : condition ∈ conditions) (hread : encoder.Decodes condition premise) :
      Leads encoder knowledge goal premise
  /-- The relation may be followed, and a stored fact leads from the goal's subject to a further concept. -/
  | linked {stored : Fact} (htransitive : goal.predicate = "is" ∨ goal.predicate = "part of")
      (hstored : stored ∈ knowledge.facts) (hsubject : stored.subject = goal.subject)
      (hpredicate : stored.predicate = goal.predicate) :
      Leads encoder knowledge goal (Fact.of stored.object goal.predicate goal.object)

/-- The number of the goal is stored. -/
def Knowledge.Stores (encoder : Encoder) (knowledge : Knowledge) (goal : Fact) : Prop :=
  ∃ n : ℕ, encoder.Encodes goal n ∧ (n : Int) ∈ knowledge.encodings

lemma Encoder.isNormal_of_fact? {encoder : Encoder} {n : Int} {fact : Fact}
    (h : encoder.fact? n = some fact) : fact.IsNormal := by
  unfold fact? at h
  split at h
  · rw [← Option.some.inj h]
    exact Fact.isNormal_of _ _ _
  · simp at h

namespace Knowledge

variable {knowledge : Knowledge} {encoder : Encoder} {goal premise : Fact}

lemma leads_iff (h : encoder.Sound) (hknows : encoder.Knows goal.concepts) :
    knowledge.Leads encoder goal premise ↔
      ∃ way ∈ (knowledge.graph encoder).ways goal, premise ∈ way.premises goal := by
  constructor
  · intro hleads
    cases hleads with
    | member hrule hpredicate hobject =>
        exact ⟨_, mem_ways.mpr (.inl ⟨_, _, _, _, _, _, _, hrule, hpredicate, hobject, rfl⟩),
          List.mem_singleton_self _⟩
    | implied hgoal hrule hcondition hread =>
        obtain rfl := h.eq_code hknows hgoal
        exact ⟨_, mem_ways.mpr (.inr (.inl ⟨_, hrule, rfl⟩)),
          List.mem_filterMap.mpr ⟨_, hcondition, h.decodes_iff.mp hread⟩⟩
    | linked htransitive hstored hsubject hpredicate =>
        have htransitive' : isTransitive goal.predicate = true := by simpa [isTransitive] using htransitive
        exact ⟨_, mem_ways.mpr (.inr (.inr ⟨htransitive', _, hstored, hsubject, hpredicate, rfl⟩)),
          List.mem_singleton_self _⟩
  · rintro ⟨way, hway, hpremise⟩
    rcases mem_ways.mp hway with ⟨_, _, _, _, _, _, _, hrule, hpredicate, hobject, rfl⟩ |
      ⟨conditions, hrule, rfl⟩ | ⟨htransitive, stored, hstored, hsubject, hpredicate, rfl⟩
    · obtain rfl := List.mem_singleton.mp hpremise
      exact .member hrule hpredicate hobject
    · obtain ⟨condition, hcondition, hread⟩ := List.mem_filterMap.mp hpremise
      exact .implied (h.encodes_code hknows) hrule hcondition (h.decodes_iff.mpr hread)
    · obtain rfl := List.mem_singleton.mp hpremise
      exact .linked (by simpa [isTransitive] using htransitive) hstored hsubject hpredicate

lemma stores_iff (h : encoder.Sound) (hknows : encoder.Knows goal.concepts) :
    knowledge.Stores encoder goal ↔ knowledge.holds (encoder.code goal) = true := by
  rw [holds, List.contains_iff_mem]
  constructor
  · rintro ⟨n, hn, hstored⟩
    rwa [h.eq_code hknows hn] at hstored
  · exact fun hstored => ⟨_, h.encodes_code hknows, hstored⟩

/-- Every stored implication has one condition. -/
def IsSingle (knowledge : Knowledge) : Prop :=
  ∀ conditions conclusion, .standard conditions conclusion ∈ knowledge.rules → conditions.length = 1

/-- **Every way leads to one goal**, which is known and normal. -/
lemma IsSingle.isLinear (hsingle : knowledge.IsSingle) (hfits : knowledge.Fits encoder)
    (h : encoder.Sound) :
    (knowledge.graph encoder).IsLinear fun goal => encoder.Knows goal.concepts ∧ goal.IsNormal := by
  rintro goal ⟨hknows, -⟩ way hway
  have hpremises := hfits.knows_premises h hknows hway
  rcases mem_ways.mp hway with ⟨_, _, _, _, _, _, _, -, -, -, rfl⟩ | ⟨conditions, hrule, rfl⟩ |
    ⟨-, stored, -, -, -, rfl⟩
  · exact ⟨_, rfl, hpremises _ (List.mem_singleton_self _), Fact.isNormal_of _ _ _⟩
  · obtain ⟨condition, rfl⟩ := List.length_eq_one_iff.mp (hsingle conditions _ hrule)
    obtain ⟨fact, hfact, hfactKnown⟩ :=
      h.fact?_of_numbers ((hfits.reads h hrule).1 condition (List.mem_singleton_self _))
    exact ⟨fact, by simp [Way.premises, hfact], hfactKnown, Encoder.isNormal_of_fact? hfact⟩
  · exact ⟨_, rfl, hpremises _ (List.mem_singleton_self _), Fact.isNormal_of _ _ _⟩

end Knowledge

/-- The table has nothing but what was there and what a normal goal consists of. -/
lemma Encoder.Sound.mem_concepts_ready {encoder : Encoder} (h : encoder.Sound) {goal : Fact}
    (hcomplete : goal.IsComplete) (hnormal : goal.IsNormal) {concept : String}
    (hconcept : concept ∈ (encoder.ready goal).concepts) : concept ∈ encoder.concepts ++ goal.concepts := by
  obtain ⟨-, hconcepts, -⟩ := asks_encodeFact goal encoder h
  rw [Encoder.ready, hconcepts, untilBlank_of_ne hcomplete] at hconcept
  rw [List.mem_append]
  refine (mem_of_mem_requestAll hconcept).imp_right fun hgiven => ?_
  obtain ⟨given, hmem, rfl⟩ := List.mem_map.mp hgiven
  rw [hnormal given hmem]
  exact hmem

/-- **Completeness for implications with one condition.**  Let every implication of a reachable store have one
condition, and let no two facts over the concepts of the table and of the question read the same.  A deduction
that is not cut off then answers with yes exactly if there is a valid derivation of the question, and exactly
if a stored number can be reached from it. -/
theorem holds_iff_reaches {store : Store} (hstore : store.IsReachable) (hsingle : store.knowledge.IsSingle)
    {engine : Engine} {limit : Number} (hlimit : engine.depthLimit.number? = some limit) {goal : Fact}
    (hcomplete : goal.IsComplete) (hnormal : goal.IsNormal)
    (hphrases : ∀ first second : Fact,
      (∀ concept ∈ first.concepts ++ second.concepts, concept ∈ store.encoder.concepts ++ goal.concepts) →
      first.text = second.text → first = second)
    {after : Encoder} (hafter : after = (engine.deduce store.encoder store.knowledge goal).2.2)
    (hcutoffs : (engine.deduce store.encoder store.knowledge goal).2.1.statistics.effort.cutoffs =
      engine.statistics.effort.cutoffs) :
    ∃ verdict, (engine.deduce store.encoder store.knowledge goal).1 = .ok verdict ∧
      (verdict.holds = true ↔ ∃ derivation : Derivation, derivation.goal = goal ∧
        derivation.IsValid after store.knowledge) ∧
      (verdict.holds = true ↔ ∃ target, Relation.ReflTransGen (store.knowledge.Leads after) goal target ∧
        store.knowledge.Stores after target) := by
  have h := hstore.sound
  obtain ⟨later, hsame, hdeduce⟩ := h.fits.deduce h.encoder hcomplete (Engine.depthBound_eq_ok hlimit)
  obtain ⟨hready, hgrows, hknows, -⟩ := h.encoder.ready hcomplete
  rw [hdeduce] at hafter hcutoffs ⊢
  subst hafter
  rw [← Knowledge.graph_congr hsame] at hcutoffs ⊢
  have hasked : Store.Sound { store with encoder := after } :=
    ⟨hsame.sound, (h.fits.grows h.encoder hready hgrows).grows hready hsame.sound hsame.grows⟩
  have hlinear := hsingle.isLinear hasked.fits hasked.encoder
  have hknows' : after.Knows goal.concepts := hknows.grows hsame.grows
  -- a goal that the search can meet consists of concepts of the table and of the question
  have hmem : ∀ fact : Fact, after.Knows fact.concepts ∧ fact.IsNormal →
      ∀ concept ∈ fact.concepts, concept ∈ store.encoder.concepts ++ goal.concepts := by
    rintro fact ⟨hfact, hfactNormal⟩ concept hconcept
    refine h.encoder.mem_concepts_ready hcomplete hnormal ?_
    have hnormalized := hfact concept hconcept
    rwa [hfactNormal concept hconcept, Encoder.concepts_congr hsame.table] at hnormalized
  have hholds := hlinear.holds_answer_iff (fun first second hfirst hsecond => hphrases first second
    (List.forall_mem_append.mpr ⟨hmem first hfirst, hmem second hsecond⟩)) ⟨hknows', hnormal⟩
    (Engine.cutoffs_after.mp hcutoffs)
  refine ⟨_, rfl, hholds.trans (hasked.derivable_iff hknows').symm, hholds.trans ?_⟩
  exact hlinear.derives_iff (fun goal hgoal premise => Knowledge.leads_iff hasked.encoder hgoal.1)
    (fun goal hgoal => Knowledge.stores_iff hasked.encoder hgoal.1) ⟨hknows', hnormal⟩

/-- A store with a ring of facts and an implication along it. -/
def ringStore : Store := (Store.fresh 0 []).performAll
  [.addFact ⟨"a", "is", "b"⟩, .addFact ⟨"b", "is", "a"⟩,
    .addRule (.rule (.standard ⟨"b", "is", "c"⟩ [] ⟨"a", "is", "c"⟩))]

theorem unreachable_from_ring :
    (ringStore.outcome ⟨"a", "is", "c"⟩).2.cycles ≠ 0 ∧
    (¬ ∃ derivation : Derivation, derivation.goal = ⟨"a", "is", "c"⟩ ∧ derivation.IsValid
      (({ machine := .usual } : Engine).deduce ringStore.encoder ringStore.knowledge ⟨"a", "is", "c"⟩).2.2
      ringStore.knowledge) ∧
    ¬ ∃ target, Relation.ReflTransGen (ringStore.knowledge.Leads
        (({ machine := .usual } : Engine).deduce ringStore.encoder ringStore.knowledge ⟨"a", "is", "c"⟩).2.2)
        ⟨"a", "is", "c"⟩ target ∧
      ringStore.knowledge.Stores
        (({ machine := .usual } : Engine).deduce ringStore.encoder ringStore.knowledge
          ⟨"a", "is", "c"⟩).2.2 target := by
  obtain ⟨hrules, hwords, hno, hcycles, hcutoffs⟩ :
      ringStore.knowledge.rules = [.standard [385] 165] ∧
      (∀ concept ∈ ringStore.encoder.concepts ++ ["a", "is", "c"],
        normalize concept = concept ∧ normalize concept ≠ "" ∧ ' ' ∉ concept.toList) ∧
      (ringStore.outcome ⟨"a", "is", "c"⟩).1 = some false ∧
      (ringStore.outcome ⟨"a", "is", "c"⟩).2.cycles ≠ 0 ∧
      (ringStore.outcome ⟨"a", "is", "c"⟩).2.cutoffs =
        ({ machine := .usual } : Engine).statistics.effort.cutoffs := by
    decide +kernel
  simp only [Store.outcome] at hno hcutoffs
  have hstore : ringStore.IsReachable := ⟨0, [], _, rfl⟩
  have hlimit : ({ machine := .usual } : Engine).depthLimit.number? = some (.whole 400) := rfl
  have hgoal : ∀ concept ∈ (⟨"a", "is", "c"⟩ : Fact).concepts, _ := fun concept hconcept =>
    hwords concept (List.mem_append_right _ hconcept)
  have hsingle : ringStore.knowledge.IsSingle := by
    intro conditions conclusion hrule
    rw [hrules, List.mem_singleton] at hrule
    obtain ⟨rfl, -⟩ := EncodedRule.standard.inj hrule
    rfl
  obtain ⟨verdict, hverdict, hderivable, hreaches⟩ := holds_iff_reaches hstore hsingle hlimit
    (fun concept hconcept => (hgoal concept hconcept).2.1) (fun concept hconcept => (hgoal concept hconcept).1)
    (fun first second hmem => Fact.eq_of_text_eq
      (fun concept hconcept => (hwords concept (hmem concept (List.mem_append_left _ hconcept))).2.2)
      (fun concept hconcept => (hwords concept (hmem concept (List.mem_append_right _ hconcept))).2.2))
    rfl hcutoffs
  rw [hverdict] at hno
  have hrefused : ¬ verdict.holds = true := by simpa [Except.toOption] using hno
  exact ⟨hcycles, fun h => hrefused (hderivable.mpr h), fun h => hrefused (hreaches.mpr h)⟩

end PrimeReasoner
