import PrimeReasoner.Proofs.Certificate
import PrimeReasoner.Proofs.Search.Completeness

/-!
# What can be derived from a store

A goal can be derived from what is stored (`Store.Derivable`) if there is a valid derivation of it, however
deep.  In a sound store these are the goals that can be derived in the graph of its knowledge
(`Store.Sound.derivable_iff`), and the graph is what the proofs work with.

**Growth.**  Whatever can be derived can still be derived when more has been learned: the numbers of what is
stored keep their meaning while the table grows, so every way to a goal stays a way to it
(`Store.Grows.derives`).

**Answers.**  What is answered with yes can be derived (`Store.Sound.derives_of_holds`).  The converse needs
a search that was not cut off and has refused no stray that can be derived (`Store.Sound.holds_of_derives`).
-/

namespace PrimeReasoner

/-- **Known goals are closed** under the ways of fitting knowledge. -/
lemma Knowledge.Fits.isClosed {knowledge : Knowledge} {encoder : Encoder} (h : knowledge.Fits encoder)
    (hsound : encoder.Sound) : (knowledge.graph encoder).IsClosed fun goal => encoder.Knows goal.concepts :=
  fun _ hgoal _ hway => h.knows_premises hsound hgoal hway

namespace Store

variable {store later : Store}

/-- Every way to a known goal stays one when the store grows. -/
lemma Grows.mem_ways (hgrows : store.Grows later) (h : store.Sound) (hlater : later.Sound) {goal : Fact}
    (hknows : store.encoder.Knows goal.concepts) {way : Way}
    (hway : way ∈ (store.knowledge.graph store.encoder).ways goal) :
    way ∈ (later.knowledge.graph later.encoder).ways goal := by
  have hconcept : ∀ {n : Int}, store.encoder.Assigns n →
      later.encoder.conceptOf n = store.encoder.conceptOf n :=
    h.encoder.conceptOf_grows hlater.encoder hgrows.encoder
  rw [Knowledge.mem_ways] at hway ⊢
  rcases hway with ⟨quantifier, v, c, p, q, x, y, hrule, hpredicate, hobject, rfl⟩ |
    ⟨conditions, hrule, rfl⟩ | ⟨htransitive, stored, hstored, hsubject, hpredicate, rfl⟩
  · obtain ⟨hc, hp, hq, -⟩ := h.fits.reads h.encoder hrule
    refine .inl ⟨quantifier, v, c, p, q, x, y, hgrows.rules.subset hrule, ?_, ?_, ?_⟩
    · rw [hconcept hq, hpredicate]
    · rw [hconcept hp, hobject]
    · rw [hconcept hc, hconcept hp]
  · refine .inr (.inl ⟨conditions, ?_, ?_⟩)
    · rw [h.encoder.code_grows hlater.encoder hgrows.encoder hknows]
      exact hgrows.rules.subset hrule
    · rw [List.filterMap_congr fun condition hcondition => h.encoder.fact?_grows hlater.encoder
        hgrows.encoder ((h.fits.reads h.encoder hrule).1 condition hcondition)]
  · exact .inr (.inr ⟨htransitive, stored, hgrows.facts.subset hstored, hsubject, hpredicate, rfl⟩)

/-- **Derivability is monotone**, by induction over the derivation. -/
theorem Grows.derives (hgrows : store.Grows later) (h : store.Sound) (hlater : later.Sound) {goal : Fact}
    (hknows : store.encoder.Knows goal.concepts)
    (hderives : (store.knowledge.graph store.encoder).Derives goal) :
    (later.knowledge.graph later.encoder).Derives goal := by
  induction hderives with
  | @held goal hholds =>
      refine .held ?_
      rw [Knowledge.graph] at hholds ⊢
      dsimp only at hholds ⊢
      rw [h.encoder.code_grows hlater.encoder hgrows.encoder hknows]
      simp only [Knowledge.holds, List.contains_iff_mem] at hholds ⊢
      exact hgrows.encodings.subset hholds
  | @way goal way hway _ ih =>
      have hpremises := h.fits.knows_premises h.encoder hknows hway
      exact .way (hgrows.mem_ways h hlater hknows hway) fun premise hpremise =>
        ih premise hpremise (hpremises premise hpremise)

/-- There is a valid derivation of the goal from what is stored. -/
def Derivable (store : Store) (goal : Fact) : Prop :=
  ∃ derivation : Derivation, derivation.goal = goal ∧ derivation.IsValid store.encoder store.knowledge

lemma Sound.derivable_of_derives (h : store.Sound) {goal : Fact}
    (hknows : store.encoder.Knows goal.concepts)
    (hderives : (store.knowledge.graph store.encoder).Derives goal) : store.Derivable goal := by
  obtain ⟨derivation, rfl, hproves⟩ := hderives.exists_proves
  exact ⟨derivation, rfl, Derivation.isValid_of_proves h.encoder h.fits hproves hknows⟩

end Store

namespace Encoder

variable {encoder : Encoder}

lemma Sound.eq_code (h : encoder.Sound) {fact : Fact} (hknows : encoder.Knows fact.concepts) {n : ℕ}
    (hn : encoder.Encodes fact n) : n = encoder.code fact := by
  have hcode := h.encodes_code hknows
  rw [Encodes] at hn hcode
  simpa [hn] using hcode

lemma Sound.filterMap_fact? (h : encoder.Sound) {conditions : List Int} {derivations : List Derivation}
    (hread : List.Forall₂ (fun condition derivation =>
      encoder.Decodes condition (Derivation.goal derivation)) conditions derivations) :
    conditions.filterMap encoder.fact? = derivations.map Derivation.goal := by
  induction hread with
  | nil => rfl
  | cons hcondition _ ih =>
      rw [h.decodes_iff] at hcondition
      rw [List.filterMap_cons, hcondition, List.map_cons, ih]

end Encoder

lemma Derivation.IsValid.derives {encoder : Encoder} {knowledge : Knowledge} {derivation : Derivation}
    (h : derivation.IsValid encoder knowledge) (hsound : encoder.Sound) (hfits : knowledge.Fits encoder)
    (hknows : encoder.Knows derivation.goal.concepts) :
    (knowledge.graph encoder).Derives derivation.goal := by
  -- known goals lead to known goals, so the hypothesis on the concepts goes along with the induction
  induction h with
  | direct hgoal hstored =>
      obtain rfl := hsound.eq_code hknows hgoal
      refine .held ?_
      simpa [Knowledge.graph, Knowledge.holds] using hstored
  | quantified hrule hpredicate hobject hgoal _ ih =>
      have hway := Knowledge.mem_ways.mpr (.inl ⟨_, _, _, _, _, _, _, hrule, hpredicate, hobject, rfl⟩)
      refine .way hway fun premise hpremise => ?_
      have hmem := hfits.knows_premises hsound hknows hway premise hpremise
      obtain rfl := (List.mem_singleton.mp hpremise).trans hgoal.symm
      exact ih hmem
  | @implied goal n conditions derivations hgoal hrule hconditions _ ih =>
      obtain rfl := hsound.eq_code hknows hgoal
      have hway := Knowledge.mem_ways.mpr (.inr (.inl ⟨_, hrule, rfl⟩))
      refine .way hway fun premise hpremise => ?_
      have hmem := hfits.knows_premises hsound hknows hway premise hpremise
      rw [Way.premises, hsound.filterMap_fact? hconditions] at hpremise
      obtain ⟨derivation, hderivation, rfl⟩ := List.mem_map.mp hpremise
      exact ih derivation hderivation hmem
  | @chained goal stored rest htransitive hstored hsubject hpredicate hgoal _ ih =>
      have htransitive' : isTransitive goal.predicate = true := by simpa [isTransitive] using htransitive
      have hway : .linked stored.object ∈ (knowledge.graph encoder).ways goal := Knowledge.mem_ways.mpr
        (.inr (.inr ⟨htransitive', stored, hstored, hsubject, hpredicate, rfl⟩))
      refine .way hway fun premise hpremise => ?_
      have hmem := hfits.knows_premises hsound hknows hway premise hpremise
      obtain rfl := (List.mem_singleton.mp hpremise).trans hgoal.symm
      exact ih hmem

/-- **Derivability is derivability in the graph.** -/
theorem Store.Sound.derivable_iff {store : Store} (h : store.Sound) {goal : Fact}
    (hknows : store.encoder.Knows goal.concepts) :
    store.Derivable goal ↔ (store.knowledge.graph store.encoder).Derives goal := by
  constructor
  · rintro ⟨derivation, rfl, hvalid⟩
    exact hvalid.derives h.encoder h.fits hknows
  · exact h.derivable_of_derives hknows

/-! ## Answers -/

/-- A refusal without a cutoff is one of the search itself. -/
lemma Graph.search_of_answer {graph : Graph} {limit : Int} {levels : ℕ} {goal : Fact} {reason : Refusal}
    (h : (graph.answer limit levels goal).1 = .refused reason)
    (hcutoffs : (graph.answer limit levels goal).2.cutoffs = 0) :
    (graph.search limit levels 0 [] goal {}).1 = some (.refused reason) ∧
      (graph.search limit levels 0 [] goal {}).2.effort.cutoffs = 0 := by
  unfold Graph.answer at h hcutoffs
  rcases hsearch : graph.search limit levels 0 [] goal {} with ⟨_ | verdict, walk⟩
  all_goals rw [hsearch] at h hcutoffs
  · simp at hcutoffs
  · exact ⟨congrArg some h, hcutoffs⟩

/-- A graph on which an answer without a cutoff is no has no derivation of the goal, unless there is one
of a stray. -/
lemma Graph.not_derives_of_answer {graph : Graph} {domain : Fact → Prop} {limit : Int} {levels : ℕ}
    {goal : Fact} {reason : Refusal} (hclosed : graph.IsClosed domain) (hdomain : domain goal)
    (h : (graph.answer limit levels goal).1 = .refused reason)
    (hcutoffs : (graph.answer limit levels goal).2.cutoffs = 0)
    (hstrays : ∀ stray ∈ (graph.search limit levels 0 [] goal {}).2.strays,
      domain stray → ¬ graph.Derives stray) :
    ¬ graph.Derives goal := by
  obtain ⟨hrefused, hunmoved⟩ := search_of_answer h hcutoffs
  exact not_derives_of_refused hclosed hdomain hrefused hunmoved hstrays

lemma Graph.derives_of_answer {graph : Graph} {limit : Int} {levels : ℕ} {goal : Fact}
    (h : (graph.answer limit levels goal).1.holds = true) : graph.Derives goal := by
  cases hverdict : (graph.answer limit levels goal).1 with
  | refused reason => simp [hverdict, Verdict.holds] at h
  | proved derivation =>
      obtain ⟨rfl, after, hfound⟩ := found_of_answer hverdict
      exact (hfound.proves derivation List.mem_cons_self).derives

/-- A question with known concepts leaves the table as it was. -/
lemma Encoder.Sound.same_ready {encoder : Encoder} (h : encoder.Sound) {goal : Fact}
    (hknows : encoder.Knows goal.concepts) : encoder.Same (encoder.ready goal) := by
  obtain ⟨_, later, hrun, hsame, -⟩ := h.run_encodeFact hknows
  rw [Encoder.ready, hrun]
  exact hsame

lemma Engine.cutoffs_after {engine : Engine} {answer : Verdict × Effort} :
    (engine.after answer).statistics.effort.cutoffs = engine.statistics.effort.cutoffs ↔
      answer.2.cutoffs = 0 := by
  simp [after, Statistics.record, Effort.merge]

namespace Store

/-- Whether a goal is answered with yes at the default depth, and the work done for it. -/
def outcome (store : Store) (goal : Fact) : Option Bool × Effort :=
  ((({ machine := .usual } : Engine).deduce store.encoder store.knowledge goal).1.toOption.map Verdict.holds,
    (({ machine := .usual } : Engine).deduce store.encoder store.knowledge goal).2.1.statistics.effort)

/-- The goals that the search for a goal refuses because it has met them before, although it is not
working on them. -/
def strays (store : Store) (limit : Int) (levels : ℕ) (goal : Fact) : List Fact :=
  ((store.knowledge.graph (store.encoder.ready goal)).search limit levels 0 [] goal {}).2.strays

variable {store : Store} {engine : Engine} {limit : Int} {goal : Fact}

/-- The store is sound when a complete goal has been asked for, and knows its concepts. -/
lemma Sound.asked (h : store.Sound) (hcomplete : goal.IsComplete) {encoder : Encoder}
    (hsame : (store.encoder.ready goal).Same encoder) :
    ({ store with encoder } : Store).Sound ∧ encoder.Knows goal.concepts := by
  obtain ⟨hready, hgrows, hknows, -⟩ := h.encoder.ready hcomplete
  exact ⟨⟨hsame.sound, (h.fits.grows h.encoder hready hgrows).grows hready hsame.sound hsame.grows⟩,
    hknows.grows hsame.grows⟩

/-- **A deduction over known concepts** is a search on the graph of the store. -/
lemma Sound.deduce_of_knows (h : store.Sound) (hlimit : engine.depthBound = .ok limit)
    (hknows : store.encoder.Knows goal.concepts) :
    ∃ later, engine.deduce store.encoder store.knowledge goal =
      (.ok ((store.knowledge.graph store.encoder).answer limit engine.machine.levels goal).1,
        engine.after ((store.knowledge.graph store.encoder).answer limit engine.machine.levels goal), later) := by
  obtain ⟨later, -, hdeduce⟩ := h.fits.deduce h.encoder (h.encoder.ne_blank hknows) hlimit
  rw [Knowledge.graph_congr (h.encoder.same_ready hknows)] at hdeduce
  exact ⟨later, hdeduce⟩

lemma Sound.derives_of_holds (h : store.Sound) (hlimit : engine.depthBound = .ok limit)
    (hknows : store.encoder.Knows goal.concepts) {verdict : Verdict}
    (hverdict : (engine.deduce store.encoder store.knowledge goal).1 = .ok verdict)
    (hholds : verdict.holds = true) : (store.knowledge.graph store.encoder).Derives goal := by
  obtain ⟨later, hdeduce⟩ := h.deduce_of_knows hlimit hknows
  rw [hdeduce] at hverdict
  obtain rfl := Except.ok.inj hverdict
  exact Graph.derives_of_answer hholds

lemma Sound.holds_of_derives (h : store.Sound) (hlimit : engine.depthBound = .ok limit)
    (hknows : store.encoder.Knows goal.concepts)
    (hderives : (store.knowledge.graph store.encoder).Derives goal)
    (hcutoffs : (engine.deduce store.encoder store.knowledge goal).2.1.statistics.effort.cutoffs =
      engine.statistics.effort.cutoffs)
    (hstrays : ∀ stray ∈ store.strays limit engine.machine.levels goal, ¬ store.Derivable stray) :
    ∃ verdict, (engine.deduce store.encoder store.knowledge goal).1 = .ok verdict ∧
      verdict.holds = true := by
  obtain ⟨later, hdeduce⟩ := h.deduce_of_knows hlimit hknows
  rw [hdeduce] at hcutoffs ⊢
  refine ⟨_, rfl, ?_⟩
  rw [strays, Knowledge.graph_congr (h.encoder.same_ready hknows)] at hstrays
  cases hanswer : ((store.knowledge.graph store.encoder).answer limit engine.machine.levels goal).1 with
  | proved derivation => rfl
  | refused reason =>
      refine absurd hderives (Graph.not_derives_of_answer
        (fun goal hgoal way hway => h.fits.knows_premises h.encoder hgoal hway) hknows hanswer
        (Engine.cutoffs_after.mp hcutoffs) fun stray hstray hdomain hderives => ?_)
      exact hstrays stray hstray (h.derivable_of_derives hdomain hderives)

end Store

end PrimeReasoner
