import Mathlib.Data.List.Nodup
import PrimeReasoner.Proofs.Search.Graph

/-!
# What the search finds is a derivation

A goal that the search answers with yes comes with a derivation tree.  The tree is made of ways of the
graph (`Graph.Proves`), its nodes are all within the limit, and no two of them have goals that read the
same.

**Freshness.**  The last point is not visible from the tree: subtrees are found one after the other, in a
search that goes on with what it has visited.  So the statement carries the phrases visited before and
after: those of the tree are new when it is begun and visited when it is finished (`Found`), and nothing
visited is ever forgotten.  Two trees found one after the other are therefore apart (`Found.cons`).
-/

namespace PrimeReasoner

namespace Derivation

mutual

/-- The nodes of a derivation with their depths, the goal itself at the given depth. -/
def nodes (depth : ℕ) : Derivation → List (ℕ × Fact)
  | .direct goal => [(depth, goal)]
  | .quantified goal _ _ _ membership => (depth, goal) :: membership.nodes (depth + 1)
  | .implied goal conditions => (depth, goal) :: nodesAll (depth + 1) conditions
  | .chained goal _ rest => (depth, goal) :: rest.nodes (depth + 1)

/-- The nodes of several derivations. -/
def nodesAll (depth : ℕ) : List Derivation → List (ℕ × Fact)
  | [] => []
  | derivation :: derivations => derivation.nodes depth ++ nodesAll depth derivations

end

@[simp] lemma nodesAll_singleton (depth : ℕ) (derivation : Derivation) :
    nodesAll depth [derivation] = derivation.nodes depth := by simp [nodesAll]

end Derivation

/-- The derivation of a goal along a way has the goal on top of those of the premises. -/
lemma Way.nodes_conclude {goal : Fact} {way : Way} {derivations : List Derivation}
    (h : derivations.map Derivation.goal = way.premises goal) (depth : ℕ) :
    (way.conclude goal derivations).goal = goal ∧
      (way.conclude goal derivations).nodes depth =
        (depth, goal) :: Derivation.nodesAll (depth + 1) derivations := by
  cases way with
  | implied conditions => exact ⟨rfl, by simp [Way.conclude, Derivation.nodes]⟩
  | member quantifier category property =>
      obtain ⟨membership, rfl, -⟩ := List.map_eq_singleton_iff.mp h
      exact ⟨rfl, by simp [Way.conclude, Derivation.nodes]⟩
  | linked link =>
      obtain ⟨rest, rfl, -⟩ := List.map_eq_singleton_iff.mp h
      exact ⟨rfl, by simp [Way.conclude, Derivation.nodes]⟩

namespace Graph

/-- The derivation is made of stored goals and ways of the graph. -/
inductive Proves (graph : Graph) : Derivation → Prop where
  | direct {goal : Fact} (h : graph.holds (graph.code goal) = true) : Proves graph (.direct goal)
  | way {goal : Fact} {way : Way} {derivations : List Derivation} (hway : way ∈ graph.ways goal)
      (hgoals : derivations.map Derivation.goal = way.premises goal)
      (hderivations : ∀ derivation ∈ derivations, Proves graph derivation) :
      Proves graph (way.conclude goal derivations)

lemma Proves.derives {graph : Graph} {derivation : Derivation} (h : graph.Proves derivation) :
    graph.Derives derivation.goal := by
  induction h with
  | direct h => exact .held h
  | way hway hgoals _ ih =>
      rw [(Way.nodes_conclude hgoals 0).1]
      refine .way hway fun premise hpremise => ?_
      rw [← hgoals] at hpremise
      obtain ⟨derivation, hderivation, rfl⟩ := List.mem_map.mp hpremise
      exact ih derivation hderivation

lemma exists_derivations {graph : Graph} {premises : List Fact}
    (h : ∀ premise ∈ premises, ∃ derivation : Derivation, derivation.goal = premise ∧
      graph.Proves derivation) :
    ∃ derivations : List Derivation, derivations.map Derivation.goal = premises ∧
      ∀ derivation ∈ derivations, graph.Proves derivation := by
  induction premises with
  | nil => exact ⟨[], rfl, by simp⟩
  | cons premise premises ih =>
      obtain ⟨derivation, hgoal, hproves⟩ := h premise List.mem_cons_self
      obtain ⟨derivations, hgoals, hrest⟩ :=
        ih fun other hother => h other (List.mem_cons_of_mem premise hother)
      refine ⟨derivation :: derivations, by rw [List.map_cons, hgoal, hgoals], ?_⟩
      rw [List.forall_mem_cons]
      exact ⟨hproves, hrest⟩

lemma Derives.exists_proves {graph : Graph} {goal : Fact} (h : graph.Derives goal) :
    ∃ derivation : Derivation, derivation.goal = goal ∧ graph.Proves derivation := by
  induction h with
  | held h => exact ⟨_, rfl, .direct h⟩
  | way hway _ ih =>
      obtain ⟨derivations, hgoals, hproves⟩ := exists_derivations ih
      exact ⟨_, (Way.nodes_conclude hgoals 0).1, .way hway hgoals hproves⟩

/-- **What a stretch of the search has found**, between the phrases visited before and after it. -/
structure Found (graph : Graph) (limit : Int) (depth : ℕ) (before after : List String)
    (derivations : List Derivation) : Prop where
  proves : ∀ derivation ∈ derivations, graph.Proves derivation
  within : ∀ node ∈ Derivation.nodesAll depth derivations, (node.1 : Int) ≤ limit
  nodup : ((Derivation.nodesAll depth derivations).map fun node => node.2.text).Nodup
  /-- No goal was visited before, and all are afterwards. -/
  fresh : ∀ node ∈ Derivation.nodesAll depth derivations,
    node.2.text ∉ before ∧ node.2.text ∈ after

variable {graph : Graph} {limit : Int} {depth : ℕ}

lemma found_nil (before after : List String) : graph.Found limit depth before after [] :=
  ⟨by simp, by simp [Derivation.nodesAll], by simp [Derivation.nodesAll],
    by simp [Derivation.nodesAll]⟩

/-- Later findings are apart from earlier ones. -/
lemma Found.cons {before middle after : List String} {derivation : Derivation}
    {derivations : List Derivation} (h : graph.Found limit depth before middle [derivation])
    (h' : graph.Found limit depth middle after derivations) (hbefore : before ⊆ middle)
    (hafter : middle ⊆ after) : graph.Found limit depth before after (derivation :: derivations) := by
  obtain ⟨hproves, hwithin, hnodup, hfresh⟩ := h
  rw [Derivation.nodesAll_singleton] at hwithin hnodup hfresh
  refine ⟨?_, ?_, ?_, ?_⟩
  · intro d hd
    rcases List.mem_cons.mp hd with rfl | hd
    · exact hproves d List.mem_cons_self
    · exact h'.proves d hd
  · intro node hnode
    rcases List.mem_append.mp hnode with hnode | hnode
    · exact hwithin node hnode
    · exact h'.within node hnode
  · rw [Derivation.nodesAll, List.map_append]
    refine hnodup.append h'.nodup fun phrase hphrase hphrase' => ?_
    -- the phrase was visited by the end of the first derivation, so it is not new in the others
    obtain ⟨node, hnode, rfl⟩ := List.mem_map.mp hphrase
    obtain ⟨node', hnode', heq⟩ := List.mem_map.mp hphrase'
    exact (h'.fresh node' hnode').1 (heq ▸ (hfresh node hnode).2)
  · intro node hnode
    rcases List.mem_append.mp hnode with hnode | hnode
    · exact ⟨(hfresh node hnode).1, hafter (hfresh node hnode).2⟩
    · exact ⟨fun hmem => (h'.fresh node hnode).1 (hbefore hmem), (h'.fresh node hnode).2⟩

/-- A search that started earlier has found the same. -/
lemma Found.mono {before middle after : List String} {derivations : List Derivation}
    (h : graph.Found limit depth middle after derivations) (hbefore : before ⊆ middle) :
    graph.Found limit depth before after derivations :=
  ⟨h.proves, h.within, h.nodup, fun node hnode =>
    ⟨fun hmem => (h.fresh node hnode).1 (hbefore hmem), (h.fresh node hnode).2⟩⟩

/-- The goal on top of what was found one level down. -/
lemma Found.conclude {visited after : List String} {goal : Fact} {way : Way}
    {derivations : List Derivation}
    (h : graph.Found limit (depth + 1) (goal.text :: visited) after derivations)
    (hway : way ∈ graph.ways goal) (hgoals : derivations.map Derivation.goal = way.premises goal)
    (hlimit : (depth : Int) ≤ limit) (hnew : goal.text ∉ visited)
    (hafter : goal.text :: visited ⊆ after) :
    graph.Found limit depth visited after [way.conclude goal derivations] := by
  obtain ⟨-, hnodes⟩ := Way.nodes_conclude hgoals depth
  refine ⟨?_, ?_, ?_, ?_⟩
  · intro d hd
    rw [List.mem_singleton.mp hd]
    exact .way hway hgoals h.proves
  · rw [Derivation.nodesAll_singleton, hnodes, List.forall_mem_cons]
    exact ⟨hlimit, h.within⟩
  · rw [Derivation.nodesAll_singleton, hnodes, List.map_cons, List.nodup_cons]
    refine ⟨fun hmem => ?_, h.nodup⟩
    obtain ⟨node, hnode, heq⟩ := List.mem_map.mp hmem
    exact (h.fresh node hnode).1 (heq ▸ List.mem_cons_self)
  · rw [Derivation.nodesAll_singleton, hnodes, List.forall_mem_cons]
    refine ⟨⟨hnew, hafter List.mem_cons_self⟩, fun node hnode => ?_⟩
    exact ⟨fun hmem => (h.fresh node hnode).1 (List.mem_cons_of_mem _ hmem), (h.fresh node hnode).2⟩

/-! ## Along the search -/

/-- What the procedure proves it has found. -/
def Finds (graph : Graph) (limit : Int) (depth : ℕ) (prove : Fact → Walk → Option Verdict × Walk) :
    Prop :=
  ∀ goal walk derivation, (prove goal walk).1 = some (.proved derivation) →
    derivation.goal = goal ∧
    graph.Found limit depth walk.visited (prove goal walk).2.visited [derivation]

variable {prove : Fact → Walk → Option Verdict × Walk}

lemma found_proveEach (hgrows : ∀ (goal : Fact) (walk : Walk), walk.Grows (prove goal walk).2)
    (hprove : graph.Finds limit depth prove) {premises : List Fact} {walk : Walk}
    {derivations : List Derivation}
    (h : (proveEach prove premises walk).1 = some (some derivations)) :
    derivations.map Derivation.goal = premises ∧
    graph.Found limit depth walk.visited (proveEach prove premises walk).2.visited derivations := by
  induction premises generalizing walk derivations with
  | nil =>
      obtain rfl : [] = derivations := by simpa [proveEach] using h
      exact ⟨rfl, found_nil _ _⟩
  | cons premise premises ih =>
      have hmiddle := hgrows premise walk
      have hfound := hprove premise walk
      unfold proveEach at h ⊢
      rcases hfirst : prove premise walk with ⟨_ | ⟨derivation⟩ | ⟨reason⟩, middle⟩
      all_goals rw [hfirst] at h hmiddle hfound
      · simp at h
      · obtain ⟨hgoal, hfound⟩ := hfound derivation rfl
        have hlast := grows_proveEach hgrows premises middle
        have hrest := @ih middle
        dsimp only at h ⊢
        rcases hlater : proveEach prove premises middle with ⟨_ | _ | rest, later⟩
        all_goals rw [hlater] at h hlast hrest
        · simp at h
        · simp at h
        · obtain ⟨hgoals, hrest⟩ := hrest rfl
          obtain rfl : derivation :: rest = derivations := by simpa using h
          exact ⟨by rw [List.map_cons, hgoal, hgoals],
            hfound.cons hrest hmiddle.visited hlast.visited⟩
      · simp at h

lemma found_tryWays (hgrows : ∀ (goal : Fact) (walk : Walk), walk.Grows (prove goal walk).2)
    (hprove : graph.Finds limit depth prove) {goal : Fact} {ways : List Way} {walk : Walk}
    {derivation : Derivation} (h : (tryWays prove goal ways walk).1 = some (some derivation)) :
    ∃ way ∈ ways, ∃ derivations, derivation = way.conclude goal derivations ∧
      derivations.map Derivation.goal = way.premises goal ∧
      graph.Found limit depth walk.visited (tryWays prove goal ways walk).2.visited derivations := by
  induction ways generalizing walk with
  | nil => simp [tryWays] at h
  | cons way ways ih =>
      have hmiddle := grows_proveEach hgrows (way.premises goal) walk
      have hfound := @found_proveEach _ _ _ _ hgrows hprove (way.premises goal) walk
      unfold tryWays at h ⊢
      rcases hfirst : proveEach prove (way.premises goal) walk with ⟨_ | _ | derivations, middle⟩
      all_goals rw [hfirst] at h hmiddle hfound
      · simp at h
      · obtain ⟨later, hlater, derivations, heq, hgoals, hrest⟩ := ih h
        exact ⟨later, List.mem_cons_of_mem way hlater, derivations, heq, hgoals,
          hrest.mono hmiddle.visited⟩
      · obtain ⟨hgoals, hfound⟩ := hfound rfl
        obtain rfl : way.conclude goal derivations = derivation := by simpa using h
        exact ⟨way, List.mem_cons_self, derivations, rfl, hgoals, hfound⟩

/-- **Soundness of the search.** -/
theorem finds_search (graph : Graph) (limit : Int) (levels depth : ℕ) (pending : List Fact) :
    graph.Finds limit depth (graph.search limit levels depth pending) := by
  induction levels generalizing depth pending with
  | zero =>
      intro goal walk derivation h
      simp [search] at h
  | succ levels ih =>
      intro goal walk derivation h
      unfold search at h ⊢
      split_ifs at h ⊢ with hnew hlimit hheld
      · simp at h
      · simp at h
      · obtain rfl : Derivation.direct goal = derivation := by simpa using h
        refine ⟨rfl, ?_, ?_, ?_, ?_⟩
        · simpa using Proves.direct hheld
        · simpa [Derivation.nodes] using hlimit
        · simp [Derivation.nodes]
        · simp [Derivation.nodes, hnew, Walk.expand, Walk.visit]
      · have hgrows := graph.grows_search limit levels (depth + 1) (goal :: pending)
        have hvisited := (grows_tryWays hgrows goal (graph.ways goal)
          ((walk.reach depth).visit goal.text).expand).visited
        have hfound := @found_tryWays _ _ _ _ hgrows (ih (depth + 1) (goal :: pending)) goal
          (graph.ways goal) ((walk.reach depth).visit goal.text).expand
        rcases htry : tryWays (graph.search limit levels (depth + 1) (goal :: pending)) goal
          (graph.ways goal) ((walk.reach depth).visit goal.text).expand with ⟨_ | _ | found, later⟩
        all_goals rw [htry] at h hvisited hfound
        · simp at h
        · simp at h
        · obtain ⟨way, hway, derivations, rfl, hgoals, hfound⟩ := hfound rfl
          obtain rfl : way.conclude goal derivations = derivation := by simpa using h
          exact ⟨(Way.nodes_conclude hgoals depth).1,
            hfound.conclude hway hgoals (by omega) hnew hvisited⟩

end Graph

end PrimeReasoner
