import Mathlib.Data.List.ProdSigma
import PrimeReasoner.Proofs.Reachability
import PrimeReasoner.Proofs.Search.Limits
import PrimeReasoner.Proofs.Trail

/-!
# The search ends

Knowledge may lead in circles, and new facts are put together on the way: members of categories, links, and
facts that are read back from their numbers.  Still the search ends, whatever the depth limit is, because no
phrase is visited twice.

**Triples.**  Every goal that the search decides consists of concepts that are in the table once the question has
been encoded (`Encoder.Covers`).  With `n` concepts there are `n ^ 3` such facts, and no more phrases
(`phrasesOver`).  So the search visits at most `n ^ 3` goals and goes at most `n ^ 3` levels down, and a depth limit
of `n ^ 3` or more makes no difference to it (`search_ends`).
-/

namespace PrimeReasoner

/-- The phrases of all facts over the given concepts. -/
def phrasesOver (concepts : List String) : List String :=
  (concepts ×ˢ concepts ×ˢ concepts).map fun triple => (Fact.mk triple.1 triple.2.1 triple.2.2).text

lemma length_phrasesOver (concepts : List String) :
    (phrasesOver concepts).length = concepts.length ^ 3 := by
  simp [phrasesOver, List.length_product, pow_succ, mul_assoc]

namespace Encoder

variable {encoder : Encoder} {fact : Fact}

/-- The fact consists of concepts of the table. -/
def Covers (encoder : Encoder) (fact : Fact) : Prop := fact.concepts ⊆ encoder.concepts

lemma Covers.text_mem (h : encoder.Covers fact) : fact.text ∈ phrasesOver encoder.concepts := by
  refine List.mem_map.mpr ⟨(fact.subject, fact.predicate, fact.object), ?_, rfl⟩
  rw [List.mem_product, List.mem_product]
  exact ⟨h (by simp [Fact.concepts]), h (by simp [Fact.concepts]), h (by simp [Fact.concepts])⟩

lemma Covers.knows (h : encoder.Covers fact) (hsound : encoder.Sound) : encoder.Knows fact.concepts :=
  fun _ hconcept => hsound.normalize_mem (h hconcept)

lemma Knows.covers (h : encoder.Knows fact.concepts) (hnormal : fact.IsNormal) : encoder.Covers fact := by
  intro concept hconcept
  rw [← hnormal concept hconcept]
  exact h concept hconcept

end Encoder

namespace Knowledge

variable {knowledge : Knowledge} {encoder : Encoder}

/-- Whatever a way leads to is in the normal spelling. -/
lemma isNormal_of_mem_premises {goal premise : Fact} {way : Way}
    (hway : way ∈ (knowledge.graph encoder).ways goal) (hpremise : premise ∈ way.premises goal) :
    premise.IsNormal := by
  rcases mem_ways.mp hway with ⟨_, _, _, _, _, _, _, -, -, -, rfl⟩ | ⟨conditions, -, rfl⟩ |
    ⟨-, stored, -, -, -, rfl⟩
  · obtain rfl := List.mem_singleton.mp hpremise
    exact Fact.isNormal_of _ _ _
  · obtain ⟨condition, -, hread⟩ := List.mem_filterMap.mp hpremise
    exact Encoder.isNormal_of_fact? hread
  · obtain rfl := List.mem_singleton.mp hpremise
    exact Fact.isNormal_of _ _ _

/-- **Covered goals are closed** under all kinds of ways. -/
lemma Fits.isClosed_covers (h : knowledge.Fits encoder) (hsound : encoder.Sound) :
    (knowledge.graph encoder).IsClosed encoder.Covers := by
  intro goal hgoal way hway premise hpremise
  have hknows := h.knows_premises hsound (hgoal.knows hsound) hway premise hpremise
  exact hknows.covers (isNormal_of_mem_premises hway hpremise)

end Knowledge

/-- **The answer and the levels**: with more levels the search comes to the same verdict, if it has not used them
up. -/
lemma Graph.answer_eq_of_search {graph : Graph} {limit : Int} {few levels : ℕ} {goal : Fact} {verdict : Verdict}
    (hlevels : few ≤ levels)
    (h : (graph.search limit levels 0 [] goal {}).1 = some verdict) :
    (graph.answer limit few goal).1 = verdict ∨
      (graph.search limit few 0 [] goal {}).1 = none ∧
        (graph.answer limit few goal).1 = .refused .outOfLevels := by
  unfold answer
  rcases hsearch : graph.search limit few 0 [] goal {} with ⟨_ | found, walk⟩
  · exact .inr ⟨rfl, rfl⟩
  · have hconclusive : Conclusive (limit = limit) {} (graph.search limit few 0 [] goal {}) := by
      rw [hsearch]
      exact ⟨rfl, .inl rfl⟩
    rw [search_eq_of_le le_rfl hlevels hconclusive, hsearch] at h
    exact .inl (Option.some.inj h)

namespace Store

variable {store : Store} {limit : Int} {levels : ℕ} {goal : Fact}

/-- The number of triples over the table that has the concepts of the question. -/
def triples (store : Store) (goal : Fact) : ℕ := (store.encoder.ready goal).concepts.length ^ 3

/-- **The phrases over the table bound the search.** -/
lemma Sound.advances_search (h : store.Sound) (hcomplete : goal.IsComplete) (hnormal : goal.IsNormal)
    (limit : Int) (hlevels : store.triples goal < levels) :
    let graph := store.knowledge.graph (store.encoder.ready goal)
    (graph.search limit levels 0 [] goal {}).1.isSome = true ∧
      ({} : Walk).Advances (phrasesOver (store.encoder.ready goal).concepts) limit
        (graph.search limit levels 0 [] goal {}).2 := by
  obtain ⟨hready, hgrows, hknows, -⟩ := h.encoder.ready hcomplete
  have hclosed := (h.fits.grows h.encoder hready hgrows).isClosed_covers hready
  refine Graph.advances_search hclosed (fun _ hgoal => hgoal.text_mem) (hknows.covers hnormal)
    (Walk.within_start _) le_rfl ?_
  rw [length_phrasesOver]
  exact hlevels

/-- All goals that the search decides are triples over the table. -/
lemma Sound.covers_meetings (h : store.Sound) (hcomplete : goal.IsComplete) (hnormal : goal.IsNormal)
    {meeting : Meeting} (hmeeting : meeting ∈ store.meetings limit levels goal) :
    (store.encoder.ready goal).Covers meeting.goal := by
  obtain ⟨hready, hgrows, hknows, -⟩ := h.encoder.ready hcomplete
  have hclosed := (h.fits.grows h.encoder hready hgrows).isClosed_covers hready
  exact hclosed.of_mem_meetings (hknows.covers hnormal) hmeeting

/-- **A limit beyond the number of triples does not matter.** -/
lemma Sound.search_eq (h : store.Sound) (hcomplete : goal.IsComplete) (hnormal : goal.IsNormal)
    (hlimit : (store.triples goal : Int) ≤ limit) (hlevels : store.triples goal < levels) :
    let graph := store.knowledge.graph (store.encoder.ready goal)
    graph.search limit levels 0 [] goal {} =
      graph.search (store.triples goal) (store.triples goal + 1) 0 [] goal {} := by
  obtain ⟨hsome, hadvances⟩ := h.advances_search hcomplete hnormal (store.triples goal) (Nat.lt_succ_self _)
  refine Graph.search_eq_of_le hlimit hlevels ⟨hsome, .inr (hadvances.cutoffs ?_)⟩
  rw [length_phrasesOver]
  exact le_rfl

/-- So there is one verdict for all limits beyond it. -/
lemma Sound.exists_verdict (h : store.Sound) (hcomplete : goal.IsComplete) (hnormal : goal.IsNormal) :
    ∃ verdict : Verdict, ∀ (limit : Int) (levels : ℕ),
      (store.triples goal : Int) ≤ limit → store.triples goal < levels →
        ((store.knowledge.graph (store.encoder.ready goal)).search limit levels 0 [] goal {}).1 =
          some verdict := by
  obtain ⟨hsome, -⟩ := h.advances_search hcomplete hnormal (store.triples goal) (Nat.lt_succ_self _)
  obtain ⟨verdict, hverdict⟩ := Option.isSome_iff_exists.mp hsome
  refine ⟨verdict, fun limit levels hlimit hlevels => ?_⟩
  rw [h.search_eq hcomplete hnormal hlimit hlevels]
  exact hverdict

end Store

/-- **The search ends.**  Let a complete question be asked over a store in any state, and let there be `size` triples
over the table once the question has been encoded.  Whatever the depth limit is, the search comes to a verdict if
it has more than `size` levels.  All goals that it decides are triples over that table, it visits at most `size` of
them, each once, and goes no deeper than `size`; a limit of `size` or more cuts nothing off.  For all such limits
the verdict is the same, and an engine answers with it unless the levels that it has do not suffice. -/
theorem search_ends {store : Store} (hstore : store.IsReachable) {goal : Fact} (hcomplete : goal.IsComplete)
    (hnormal : goal.IsNormal) :
    let table := (store.encoder.ready goal).concepts
    let size := table.length ^ 3
    (∀ (limit : Int) (levels : ℕ), size < levels → ∃ (verdict : Verdict) (trail : Trail),
      store.search limit levels goal = (.ok verdict, trail) ∧
      trail.Records (store.meetings limit levels goal) ∧ trail.encoder.concepts = table ∧
      (∀ meeting ∈ store.meetings limit levels goal, meeting.goal.concepts ⊆ table) ∧
      trail.visited.Nodup ∧ trail.visited.length ≤ size ∧ trail.effort.deepest ≤ size ∧
      ((size : Int) ≤ limit → trail.effort.cutoffs = 0)) ∧
    ∃ verdict : Verdict,
      (∀ (limit : Int) (levels : ℕ), (size : Int) ≤ limit → size < levels →
        (store.search limit levels goal).1 = .ok verdict) ∧
      ∀ (engine : Engine) (limit : Int), engine.depthBound = .ok limit → (size : Int) ≤ limit →
        (engine.deduce store.encoder store.knowledge goal).1 = .ok verdict ∨
          engine.machine.levels ≤ size ∧
            (engine.deduce store.encoder store.knowledge goal).1 = .ok (.refused .outOfLevels) := by
  intro table size
  have h := hstore.sound
  obtain ⟨hready, -, -, -⟩ := h.encoder.ready hcomplete
  constructor
  · intro limit levels hlevels
    obtain ⟨hsome, hadvances⟩ := h.advances_search hcomplete hnormal limit hlevels
    obtain ⟨verdict, hverdict⟩ := Option.isSome_iff_exists.mp hsome
    obtain ⟨later, hsame, hrecords, hrun⟩ := h.search hcomplete limit (Nat.zero_lt_of_lt hlevels)
    have hlength := hadvances.within.length_le
    have hdeepest := hadvances.within.deepest
    have hcutoffs := hadvances.cutoffs
    rw [length_phrasesOver] at hlength hdeepest hcutoffs
    rw [hverdict] at hrun
    exact ⟨verdict, _, hrun, hrecords, Encoder.concepts_congr hsame.table,
      fun meeting hmeeting => h.covers_meetings hcomplete hnormal hmeeting,
      hadvances.within.nodup, hlength, hdeepest, hcutoffs⟩
  · obtain ⟨verdict, hall⟩ := h.exists_verdict hcomplete hnormal
    refine ⟨verdict, fun limit levels hlimit hlevels => ?_, fun engine limit hbound hlimit => ?_⟩
    · obtain ⟨later, -, -, hrun⟩ := h.search hcomplete limit (Nat.zero_lt_of_lt hlevels)
      rw [hrun, hall limit levels hlimit hlevels]
      rfl
    · obtain ⟨later, -, hdeduce⟩ := h.fits.deduce h.encoder hcomplete hbound
      rw [hdeduce]
      have hlevels : size < max engine.machine.levels (size + 1) := by omega
      rcases Graph.answer_eq_of_search (le_max_left _ _) (hall limit _ hlimit hlevels) with
        hanswer | ⟨hnone, hanswer⟩
      · exact .inl (congrArg Except.ok hanswer)
      · refine .inr ⟨not_lt.mp fun hfew => ?_, congrArg Except.ok hanswer⟩
        simp [hall limit _ hlimit hfew] at hnone

theorem search_ends_on_ring :
    ((({ machine := .usual } : Engine).deduce ringStore.encoder ringStore.knowledge
      ⟨"a", "is", "c"⟩).2.1.statistics.effort.cycles ≠ 0) ∧
    (∀ (limit : Int) (levels : ℕ), 125 < levels → ∃ (verdict : Verdict) (trail : Trail),
      ringStore.search limit levels ⟨"a", "is", "c"⟩ = (.ok verdict, trail) ∧
      trail.visited.length ≤ 125 ∧ trail.effort.deepest ≤ 125 ∧
      (125 ≤ limit → trail.effort.cutoffs = 0)) ∧
    ∃ verdict : Verdict, ∀ (engine : Engine) (limit : Int), engine.depthBound = .ok limit → 125 ≤ limit →
      (engine.deduce ringStore.encoder ringStore.knowledge ⟨"a", "is", "c"⟩).1 = .ok verdict := by
  obtain ⟨hcycles, hlength, hwords⟩ :
      (ringStore.outcome ⟨"a", "is", "c"⟩).2.cycles ≠ 0 ∧
      (ringStore.encoder.ready ⟨"a", "is", "c"⟩).concepts.length = 5 ∧
      ∀ concept ∈ (⟨"a", "is", "c"⟩ : Fact).concepts, normalize concept = concept ∧ normalize concept ≠ "" := by
    decide +kernel
  have hstore : ringStore.IsReachable := ⟨0, [], _, rfl⟩
  obtain ⟨hends, verdict, -, hsame⟩ := search_ends hstore (fun concept hconcept => (hwords concept hconcept).2)
    fun concept hconcept => (hwords concept hconcept).1
  rw [hlength] at hends hsame
  refine ⟨hcycles, fun limit levels hlevels => ?_, verdict, fun engine limit hbound hlimit => ?_⟩
  · obtain ⟨verdict, trail, hrun, -, -, -, -, hvisited, hdeepest, hcutoffs⟩ := hends limit levels hlevels
    exact ⟨verdict, trail, hrun, hvisited, hdeepest, hcutoffs⟩
  · refine (hsame engine limit hbound hlimit).resolve_right fun hfew => ?_
    have hroomy : 400 + 1 < engine.machine.levels := engine.machine.roomy
    omega

end PrimeReasoner
