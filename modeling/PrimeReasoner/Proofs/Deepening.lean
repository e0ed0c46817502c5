import PrimeReasoner.Proofs.Derivability
import PrimeReasoner.Proofs.Search.Limits

/-!
# Raising the depth limit

What the search finds within some limit lies within every larger one, and yet it may be lost when the limit is
raised (`no_with_deeper_limit`).  There are two ways in which this happens.

**Detours.**  A larger limit lets the search follow a way that it would have given up, and on that way it may
come to a goal too late to look into it.  The goal is marked as visited all the same, so it is refused when the
right way leads to it.

**Conditions.**  A larger limit lets the search establish one more condition of an implication that fails in the
end.  The next condition is then established too, and is refused when another implication needs it.

**Strays.**  In either case a goal of the derivation that was found within the smaller limit is refused, although
the search is not working on it.  This is the only obstacle: every derivation within the limit is found, or one
that is as good, unless one of its own goals is such a stray (`Graph.Proves.exists_stray_of_refused`).  And if
the smaller limit has cut nothing off, the larger one changes nothing (`holds_with_deeper_limit`).
-/

namespace PrimeReasoner

lemma Derivation.nodes_sublist_nodesAll {derivation : Derivation} {derivations : List Derivation}
    (h : derivation ∈ derivations) (depth : ℕ) :
    (derivation.nodes depth).Sublist (nodesAll depth derivations) := by
  induction derivations with
  | nil => simp at h
  | cons first derivations ih =>
      unfold nodesAll
      rcases List.mem_cons.mp h with rfl | h
      · exact List.sublist_append_left _ _
      · exact (ih h).trans (List.sublist_append_right _ _)

/-- The nodes of the derivation that an answer comes with. -/
def Verdict.nodes : Verdict → List (ℕ × Fact)
  | .proved derivation => derivation.nodes 0
  | .refused _ => []

namespace Graph

variable {graph : Graph}

/-- A search with a result was given a level. -/
lemma exists_levels {limit : Int} {levels depth : ℕ} {pending : List Fact} {goal : Fact} {walk : Walk}
    {verdict : Verdict} (h : (graph.search limit levels depth pending goal walk).1 = some verdict) :
    ∃ n, levels = n + 1 := by
  cases levels with
  | zero => simp [search] at h
  | succ n => exact ⟨n, rfl⟩

/-- **A refusal in spite of a derivation.**  If the search refuses a goal that has a derivation within the limit,
it has refused a stray that is a goal of the derivation.  The induction is on the derivation: where all ways to a
goal fail, a premise on the way of the derivation is refused one level down. -/
theorem Proves.exists_stray_of_refused {derivation : Derivation} (h : graph.Proves derivation) {limit : Int}
    {levels depth : ℕ} {pending : List Fact} {walk : Walk} {reason : Refusal}
    (hwithin : ∀ node ∈ derivation.nodes depth, (node.1 : Int) ≤ limit)
    (hnodup : ((derivation.nodes depth).map fun node => node.2.text).Nodup)
    (hpending : ∀ node ∈ derivation.nodes depth, node.2 ∉ pending)
    (hrefused : (graph.search limit levels depth pending derivation.goal walk).1 = some (.refused reason)) :
    ∃ node ∈ derivation.nodes depth,
      node.2 ∈ (graph.search limit levels depth pending derivation.goal walk).2.strays := by
  induction h generalizing levels depth pending walk reason with
  | @direct goal hholds =>
      obtain ⟨levels, rfl⟩ := exists_levels hrefused
      simp only [Derivation.nodes, List.forall_mem_singleton, Derivation.goal] at hwithin hpending hrefused ⊢
      rcases refused_search hrefused with ⟨-, hlast⟩ | ⟨hdeep, -⟩ | ⟨hheld, -⟩
      · exact ⟨_, List.mem_singleton_self _, by simp [hlast, Walk.meetAgain, hpending]⟩
      · omega
      · simp [hheld] at hholds
  | @way goal way derivations hway hgoals _ ih =>
      obtain ⟨levels, rfl⟩ := exists_levels hrefused
      obtain ⟨hgoal, hnodes⟩ := Way.nodes_conclude hgoals depth
      rw [hnodes] at hwithin hnodup hpending ⊢
      rw [hgoal] at hrefused ⊢
      rw [List.forall_mem_cons] at hwithin hpending
      rw [List.map_cons, List.nodup_cons] at hnodup
      rcases refused_search hrefused with ⟨-, hlast⟩ | ⟨hdeep, -⟩ | ⟨-, hfail, hlast⟩
      · exact ⟨_, List.mem_cons_self, by simp [hlast, Walk.meetAgain, hpending.1]⟩
      · omega
      · have hgrows := graph.grows_search limit levels (depth + 1) (goal :: pending)
        obtain ⟨premise, hpremise, start, reason, -, hpremiseRefused, hend⟩ :=
          refused_tryWays hgrows hfail way hway
        rw [← hgoals] at hpremise
        obtain ⟨derivation, hderivation, rfl⟩ := List.mem_map.mp hpremise
        have hsub := Derivation.nodes_sublist_nodesAll hderivation (depth + 1)
        -- the goal is none of the nodes below it, since no two nodes read the same
        have hbelow : ∀ node ∈ derivation.nodes (depth + 1), node.2 ∉ goal :: pending := by
          intro node hnode
          rw [List.mem_cons, not_or]
          refine ⟨fun heq => hnodup.1 ?_, hpending.2 node (hsub.subset hnode)⟩
          exact List.mem_map.mpr ⟨node, hsub.subset hnode, congrArg Fact.text heq⟩
        obtain ⟨node, hnode, hstray⟩ := ih derivation hderivation
          (fun node hnode => hwithin.2 node (hsub.subset hnode)) (hnodup.2.sublist (hsub.map _)) hbelow
          hpremiseRefused
        refine ⟨node, List.mem_cons_of_mem _ (hsub.subset hnode), ?_⟩
        rw [hlast]
        exact hend.strays hstray

/-- A larger limit keeps the answer yes, unless the smaller one has cut something off and the larger one brings
a stray into the derivation. -/
lemma holds_answer_of_le {limit limit' : Int} {levels : ℕ} (hle : limit ≤ limit') (hlevels : 0 < levels)
    (hmax : limit' + 1 < levels) {goal : Fact} {derivation : Derivation}
    (h : (graph.answer limit levels goal).1 = .proved derivation)
    (hclear : (graph.answer limit levels goal).2.cutoffs = 0 ∨ ∀ node ∈ derivation.nodes 0,
      node.2 ∉ (graph.search limit' levels 0 [] goal {}).2.strays) :
    (graph.answer limit' levels goal).1.holds = true := by
  obtain ⟨rfl, after, hfound⟩ := found_of_answer h
  have hwithin := hfound.within
  have hnodup := hfound.nodup
  rw [Derivation.nodesAll_singleton] at hwithin hnodup
  unfold answer at h hclear ⊢
  rcases hclear with hcutoffs | hstrays
  · rcases hsearch : graph.search limit levels 0 [] derivation.goal {} with ⟨_ | verdict, walk⟩
    all_goals rw [hsearch] at h hcutoffs
    · simp at h
    · obtain rfl : verdict = .proved derivation := h
      have hconclusive : Conclusive (limit = limit') {}
          (graph.search limit levels 0 [] derivation.goal {}) := by
        rw [hsearch]
        exact ⟨rfl, .inr hcutoffs⟩
      rw [search_eq_of_le hle le_rfl hconclusive, hsearch]
      rfl
  · have hsome := @isSome_search graph limit' levels 0 [] derivation.goal {} hlevels
      (by simpa using hmax)
    have hstray := @Proves.exists_stray_of_refused graph derivation
      (hfound.proves derivation List.mem_cons_self) limit' levels 0 [] {}
    rcases hsearch : graph.search limit' levels 0 [] derivation.goal {} with
      ⟨_ | proved | reason, walk⟩
    all_goals rw [hsearch] at hsome hstray hstrays
    · simp at hsome
    · rfl
    · obtain ⟨node, hnode, hmem⟩ := hstray (fun node hnode => le_trans (hwithin node hnode) hle) hnodup
        (by simp) rfl
      exact absurd hmem (hstrays node hnode)

end Graph

/-- **Raising the depth limit keeps the answer yes, strays aside.**  Over a store in any state, let an engine
answer with yes, and let another engine on the same machine have a depth limit that is no smaller, and no larger than
the default.
If the first engine has cut nothing off, or the second one refuses no stray that is a goal of the derivation
found by the first one, then the second engine answers with yes as well.  It does not matter whether it is asked
before or after the first one. -/
theorem holds_with_deeper_limit {store : Store} (hstore : store.IsReachable) {shallow deep : Engine}
    (hmachine : deep.machine = shallow.machine) {limit limit' : Int}
    (hshallow : shallow.depthLimit.number? = some (.whole limit))
    (hdeep : deep.depthLimit.number? = some (.whole limit')) (hle : limit ≤ limit')
    (hmax : limit' ≤ Engine.defaultDepth) {goal : Fact} {verdict : Verdict}
    (hverdict : (shallow.deduce store.encoder store.knowledge goal).1 = .ok verdict)
    (hyes : verdict.holds = true)
    (hclear : (shallow.deduce store.encoder store.knowledge goal).2.1.statistics.effort.cutoffs =
        shallow.statistics.effort.cutoffs ∨
      ∀ node ∈ verdict.nodes, node.2 ∉ store.strays limit' deep.machine.levels goal) {encoder : Encoder}
    (hencoder : encoder = store.encoder ∨
      encoder = (shallow.deduce store.encoder store.knowledge goal).2.2) :
    ∃ verdict, (deep.deduce encoder store.knowledge goal).1 = .ok verdict ∧ verdict.holds = true := by
  have h := hstore.sound
  have hbound := Engine.depthBound_eq_ok hshallow
  have hbound' := Engine.depthBound_eq_ok hdeep
  have hcomplete : goal.IsComplete := by
    by_contra hincomplete
    obtain ⟨error, herror, -⟩ :=
      Engine.deduce_of_not_isComplete h.encoder hincomplete shallow store.knowledge
    simp [herror] at hverdict
  obtain ⟨later, hsame, hdeduce⟩ := h.fits.deduce h.encoder hcomplete hbound
  rw [hdeduce] at hverdict hclear hencoder
  rw [Engine.cutoffs_after] at hclear
  cases verdict with
  | refused reason => simp [Verdict.holds] at hyes
  | proved derivation =>
      have hroomy := deep.machine.roomy
      rw [hmachine] at hroomy hclear
      have hholds := Graph.holds_answer_of_le hle (by omega) (by omega) (Except.ok.inj hverdict) hclear
      rcases hencoder with rfl | rfl
      · obtain ⟨last, -, hdeduce'⟩ := h.fits.deduce h.encoder hcomplete hbound'
        rw [hdeduce', hmachine]
        exact ⟨_, rfl, hholds⟩
      · obtain ⟨hasked, hknows⟩ := h.asked hcomplete hsame
        obtain ⟨last, hdeduce'⟩ := hasked.deduce_of_knows hbound' hknows
        rw [hdeduce', hmachine, Knowledge.graph_congr hsame]
        exact ⟨_, rfl, hholds⟩

/-- A store with two ways to the same dead end, and a third way around it. -/
def diamondStore : Store := (Store.fresh 0 []).performAll
  [.addFact ⟨"a", "is", "b"⟩, .addFact ⟨"b", "is", "d"⟩, .addFact ⟨"a", "is", "c"⟩,
    .addFact ⟨"c", "is", "d"⟩, .addFact ⟨"a", "is", "e"⟩, .addFact ⟨"e", "is", "z"⟩]

/-- What an engine with the given depth limit answers over the store, with the work done for it. -/
def Store.outcomeWithin (store : Store) (limit : Int) (goal : Fact) : Option Bool × Effort :=
  let engine : Engine := { machine := .usual, maxDepth := .int limit }
  ((engine.deduce store.encoder store.knowledge goal).1.toOption.map Verdict.holds,
    (engine.deduce store.encoder store.knowledge goal).2.1.statistics.effort)

theorem yes_across_diamond :
    (diamondStore.outcomeWithin 1 ⟨"a", "is", "z"⟩).2.cutoffs ≠ 0 ∧
    diamondStore.strays 2 Machine.usual.levels ⟨"a", "is", "z"⟩ ≠ [] ∧
    ∃ verdict, (({ machine := .usual, maxDepth := .int 2 } : Engine).deduce diamondStore.encoder
      diamondStore.knowledge ⟨"a", "is", "z"⟩).1 = .ok verdict ∧ verdict.holds = true := by
  obtain ⟨hcutoffs, hstrays, hshallow⟩ :
      (diamondStore.outcomeWithin 1 ⟨"a", "is", "z"⟩).2.cutoffs ≠ 0 ∧
      diamondStore.strays 2 Machine.usual.levels ⟨"a", "is", "z"⟩ = [⟨"d", "is", "z"⟩] ∧
      (({ machine := .usual, maxDepth := .int 1 } : Engine).deduce diamondStore.encoder
        diamondStore.knowledge ⟨"a", "is", "z"⟩).1.toOption.map (fun verdict => (verdict.holds, verdict.nodes)) =
          some (true, [(0, ⟨"a", "is", "z"⟩), (1, ⟨"e", "is", "z"⟩)]) := by
    decide +kernel
  obtain ⟨verdict, hverdict, hview⟩ := exists_ok_of_toOption hshallow
  obtain ⟨hyes, hnodes⟩ := Prod.mk.inj hview
  have hstore : diamondStore.IsReachable := ⟨0, [], _, rfl⟩
  have hmachine : ({ machine := .usual, maxDepth := .int 2 } : Engine).machine =
      ({ machine := .usual, maxDepth := .int 1 } : Engine).machine := rfl
  have hdepth : ({ machine := .usual, maxDepth := .int 1 } : Engine).depthLimit.number? = some (.whole 1) := rfl
  have hdepth' : ({ machine := .usual, maxDepth := .int 2 } : Engine).depthLimit.number? = some (.whole 2) := rfl
  refine ⟨hcutoffs, by simp [hstrays], ?_⟩
  exact holds_with_deeper_limit hstore hmachine hdepth hdepth' (by decide) (by decide) hverdict hyes
    (.inr (by simp [hstrays, hnodes])) (.inl rfl)

/-- A store with a chain of three links and a short cut to its end, from which one more link leads to the goal. -/
def detourStore : Store := (Store.fresh 0 []).performAll
  [.addFact ⟨"a", "is", "b"⟩, .addFact ⟨"b", "is", "c"⟩, .addFact ⟨"c", "is", "d"⟩,
    .addFact ⟨"a", "is", "d"⟩, .addFact ⟨"d", "is", "e"⟩]

/-- A store with two implications to the same conclusion; the only condition of the second one is stored, and it
is also the second of three conditions of the first one. -/
def conditionsStore : Store := (Store.fresh 0 []).performAll
  [.addFact ⟨"a", "r", "b"⟩, .addFact ⟨"c", "r", "d"⟩,
    .addRule (.rule (.standard ⟨"a", "r", "b"⟩ [] ⟨"b", "s", "c"⟩)),
    .addRule (.rule (.standard ⟨"b", "s", "c"⟩ [⟨"c", "r", "d"⟩, ⟨"e", "r", "f"⟩] ⟨"g", "r", "h"⟩)),
    .addRule (.rule (.standard ⟨"c", "r", "d"⟩ [] ⟨"g", "r", "h"⟩))]

/-- **Raising the depth limit may lose an answer**, on a detour that is cut off, and without any cutoff. -/
theorem no_with_deeper_limit :
    (detourStore.IsReachable ∧ (detourStore.outcomeWithin 1 ⟨"a", "is", "e"⟩).1 = some true ∧
      (detourStore.outcomeWithin 2 ⟨"a", "is", "e"⟩).1 = some false ∧
      (detourStore.outcomeWithin 2 ⟨"a", "is", "e"⟩).2.cutoffs ≠ 0) ∧
    (conditionsStore.IsReachable ∧ (conditionsStore.outcomeWithin 1 ⟨"g", "r", "h"⟩).1 = some true ∧
      (conditionsStore.outcomeWithin 2 ⟨"g", "r", "h"⟩).1 = some false ∧
      (conditionsStore.outcomeWithin 2 ⟨"g", "r", "h"⟩).2.cutoffs = 0 ∧
      (conditionsStore.outcomeWithin 400 ⟨"g", "r", "h"⟩).1 = some false) := by
  have hdetour : detourStore.IsReachable := ⟨0, [], _, rfl⟩
  have hconditions : conditionsStore.IsReachable := ⟨0, [], _, rfl⟩
  simp only [hdetour, hconditions, true_and]
  decide +kernel

end PrimeReasoner
