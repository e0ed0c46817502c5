import Mathlib.Data.List.Perm.Subperm
import PrimeReasoner.Proofs.Search.Completeness

/-!
# What bounds the search

The search has a depth limit and a number of levels.  Both are there to stop it, and neither is needed to make
it end: no phrase is visited twice, and there are only so many phrases.

**The phrases bound everything.**  Let the phrases of all goals of a closed domain be among the given ones.
With every level down, one more of them has been visited (`Walk.Within`, and `depth ≤ walk.visited.length` along
the search).  So the levels are not used up if there are more of them than phrases left, the search goes no
deeper than there are phrases, and a limit beyond that cuts nothing off (`Graph.advances_search`).

**Limits that do not matter.**  A search that has come to a result does the same with more levels, and one
without cutoffs does the same with a larger limit (`Graph.search_eq_of_le`).  Levels that reach below the limit
are not used up either (`Graph.isSome_search`).
-/

namespace PrimeReasoner

namespace Walk

variable {walk : Walk} {phrases : List String}

/-- **The walk keeps to the given phrases**, each visited once, and went no deeper than there are phrases. -/
structure Within (walk : Walk) (phrases : List String) : Prop where
  nodup : walk.visited.Nodup
  subset : walk.visited ⊆ phrases
  deepest : walk.effort.deepest ≤ phrases.length

lemma Within.length_le (h : walk.Within phrases) : walk.visited.length ≤ phrases.length :=
  (h.nodup.subperm h.subset).length_le

lemma within_start (phrases : List String) : ({} : Walk).Within phrases :=
  ⟨List.nodup_nil, List.nil_subset _, Nat.zero_le _⟩

/-- A depth that is no larger than the number of phrases may be noted. -/
lemma Within.reach (h : walk.Within phrases) {depth : ℕ} (hdepth : depth ≤ phrases.length) :
    (walk.reach depth).Within phrases :=
  ⟨h.nodup, h.subset, max_le h.deepest hdepth⟩

lemma Within.visit (h : walk.Within phrases) {phrase : String} (hmem : phrase ∈ phrases)
    (hnew : phrase ∉ walk.visited) : (walk.visit phrase).Within phrases :=
  ⟨List.nodup_cons.mpr ⟨hnew, h.nodup⟩, List.cons_subset.mpr ⟨hmem, h.subset⟩, h.deepest⟩

/-- **A stretch of a search that keeps to the given phrases**: no visit is lost, and a limit that is no smaller
than the number of phrases cuts nothing off. -/
structure Advances (phrases : List String) (limit : Int) (walk later : Walk) : Prop where
  within : later.Within phrases
  visited : walk.visited.length ≤ later.visited.length
  cutoffs : (phrases.length : Int) ≤ limit → later.effort.cutoffs = walk.effort.cutoffs

lemma Within.advances (h : walk.Within phrases) {limit : Int} : walk.Advances phrases limit walk :=
  ⟨h, le_rfl, fun _ => rfl⟩

lemma Advances.trans {limit : Int} {first second third : Walk} (h : first.Advances phrases limit second)
    (h' : second.Advances phrases limit third) : first.Advances phrases limit third :=
  ⟨h'.within, le_trans h.visited h'.visited, fun hlimit => (h'.cutoffs hlimit).trans (h.cutoffs hlimit)⟩

end Walk

section Search

variable {prove : Fact → Walk → Option Verdict × Walk} {keeps : Walk → Prop}

/-- The procedure has a result for the goal on every walk of some kind, and leads to a walk of this kind. -/
def Settles (prove : Fact → Walk → Option Verdict × Walk) (keeps : Walk → Prop) (goal : Fact) : Prop :=
  ∀ walk, keeps walk → (prove goal walk).1.isSome = true ∧ keeps (prove goal walk).2

lemma isSome_proveEach {premises : List Fact} (hprove : ∀ premise ∈ premises, Settles prove keeps premise)
    {walk : Walk} (hwalk : keeps walk) :
    (proveEach prove premises walk).1.isSome = true ∧ keeps (proveEach prove premises walk).2 := by
  induction premises generalizing walk with
  | nil => exact ⟨rfl, hwalk⟩
  | cons premise premises ih =>
      rw [List.forall_mem_cons] at hprove
      obtain ⟨hsome, hmiddle⟩ := hprove.1 walk hwalk
      unfold proveEach
      rcases hrun : prove premise walk with ⟨_ | ⟨derivation⟩ | ⟨reason⟩, middle⟩
      all_goals rw [hrun] at hsome hmiddle
      · simp at hsome
      · obtain ⟨hrest, hlater⟩ := ih hprove.2 hmiddle
        dsimp only
        rcases hrun' : proveEach prove premises middle with ⟨_ | _ | derivations, later⟩
        all_goals rw [hrun'] at hrest hlater
        · simp at hrest
        · exact ⟨rfl, hlater⟩
        · exact ⟨rfl, hlater⟩
      · exact ⟨rfl, hmiddle⟩

lemma isSome_tryWays {goal : Fact} {ways : List Way}
    (hprove : ∀ way ∈ ways, ∀ premise ∈ way.premises goal, Settles prove keeps premise)
    {walk : Walk} (hwalk : keeps walk) :
    (tryWays prove goal ways walk).1.isSome = true ∧ keeps (tryWays prove goal ways walk).2 := by
  induction ways generalizing walk with
  | nil => exact ⟨rfl, hwalk⟩
  | cons way ways ih =>
      rw [List.forall_mem_cons] at hprove
      obtain ⟨hsome, hmiddle⟩ := isSome_proveEach hprove.1 hwalk
      unfold tryWays
      rcases hrun : proveEach prove (way.premises goal) walk with ⟨_ | _ | derivations, middle⟩
      all_goals rw [hrun] at hsome hmiddle
      · simp at hsome
      · exact ih hprove.2 hmiddle
      · exact ⟨rfl, hmiddle⟩

end Search

namespace Graph

variable {graph : Graph} {limit : Int} {levels depth : ℕ} {pending : List Fact} {goal : Fact} {walk : Walk}

/-- A goal that is looked into has a result if the premises of its ways have. -/
lemma isSome_search_of_ways {keeps : Walk → Prop}
    (hways : ∀ way ∈ graph.ways goal, ∀ premise ∈ way.premises goal,
      Settles (graph.search limit levels (depth + 1) (goal :: pending)) keeps premise)
    (hnew : goal.text ∉ walk.visited) (hlimit : ¬ limit < depth)
    (hwalk : keeps ((walk.reach depth).visit goal.text).expand) :
    (graph.search limit (levels + 1) depth pending goal walk).1.isSome = true ∧
      keeps (graph.search limit (levels + 1) depth pending goal walk).2 := by
  unfold search
  rw [if_neg hnew, if_neg hlimit]
  split_ifs
  · exact ⟨rfl, hwalk⟩
  · obtain ⟨hsome, hlater⟩ := isSome_tryWays hways hwalk
    rcases hrun : tryWays (graph.search limit levels (depth + 1) (goal :: pending)) goal
      (graph.ways goal) ((walk.reach depth).visit goal.text).expand with ⟨_ | _ | derivation, later⟩
    all_goals rw [hrun] at hsome hlater
    · simp at hsome
    · exact ⟨rfl, hlater⟩
    · exact ⟨rfl, hlater⟩

/-- **The phrases bound the search.**  The measure is the number of phrases that are not visited yet. -/
theorem advances_search {domain : Fact → Prop} {phrases : List String} (hclosed : graph.IsClosed domain)
    (hphrases : ∀ goal, domain goal → goal.text ∈ phrases) (hgoal : domain goal)
    (hwalk : walk.Within phrases) (hdepth : depth ≤ walk.visited.length)
    (hlevels : phrases.length < levels + walk.visited.length) :
    (graph.search limit levels depth pending goal walk).1.isSome = true ∧
      walk.Advances phrases limit (graph.search limit levels depth pending goal walk).2 := by
  induction levels generalizing depth pending goal walk with
  | zero =>
      have hle := hwalk.length_le
      omega
  | succ levels ih =>
      have hreach := hwalk.reach (le_trans hdepth hwalk.length_le)
      by_cases hnew : goal.text ∈ walk.visited
      · rw [search, if_pos hnew]
        exact ⟨rfl, ⟨hreach.nodup, hreach.subset, hreach.deepest⟩, le_rfl, fun _ => rfl⟩
      have hvisit := hreach.visit (hphrases goal hgoal) hnew
      have hlength : walk.visited.length + 1 ≤ phrases.length := hvisit.length_le
      by_cases hlimit : limit < depth
      · rw [search, if_neg hnew, if_pos hlimit]
        -- a goal beyond the limit is deeper than there are phrases visited
        refine ⟨rfl, ⟨hvisit.nodup, hvisit.subset, hvisit.deepest⟩, Nat.le_succ _, fun hlarge => ?_⟩
        omega
      have hopened : ((walk.reach depth).visit goal.text).expand.Within phrases :=
        ⟨hvisit.nodup, hvisit.subset, hvisit.deepest⟩
      have hways : ∀ way ∈ graph.ways goal, ∀ premise ∈ way.premises goal,
          Settles (graph.search limit levels (depth + 1) (goal :: pending))
            (((walk.reach depth).visit goal.text).expand.Advances phrases limit) premise := by
        intro way hway premise hpremise start hstart
        have hmore : walk.visited.length + 1 ≤ start.visited.length := hstart.visited
        have hdepth' : depth + 1 ≤ start.visited.length := by omega
        obtain ⟨hsome, hlater⟩ := ih (hclosed goal hgoal way hway premise hpremise) hstart.within
          hdepth' (by omega)
        exact ⟨hsome, hstart.trans hlater⟩
      obtain ⟨hsome, hlater⟩ := isSome_search_of_ways hways hnew hlimit hopened.advances
      exact ⟨hsome, hlater.within, le_trans (Nat.le_succ _) hlater.visited, hlater.cutoffs⟩

/-- Levels that reach below the limit are not used up. -/
theorem isSome_search (hpos : 0 < levels) (hlevels : limit + 1 < depth + levels) :
    (graph.search limit levels depth pending goal walk).1.isSome = true := by
  induction levels generalizing depth pending goal walk with
  | zero => omega
  | succ levels ih =>
      by_cases hnew : goal.text ∈ walk.visited
      · rw [search, if_pos hnew]
        rfl
      by_cases hlimit : limit < depth
      · rw [search, if_neg hnew, if_pos hlimit]
        rfl
      have hways : ∀ way ∈ graph.ways goal, ∀ premise ∈ way.premises goal,
          Settles (graph.search limit levels (depth + 1) (goal :: pending)) (fun _ => True) premise :=
        fun _ _ _ _ _ _ => ⟨ih (by omega) (by omega), trivial⟩
      exact (isSome_search_of_ways hways hnew hlimit trivial).1

end Graph

/-! ## Limits that do not matter -/

/-- The run has a result, and it was not cut off, unless that is allowed. -/
def Conclusive {α : Type} (allowed : Prop) (walk : Walk) (run : Option α × Walk) : Prop :=
  run.1.isSome = true ∧ (allowed ∨ run.2.effort.cutoffs = walk.effort.cutoffs)

section Search

variable {prove prove' : Fact → Walk → Option Verdict × Walk} {allowed : Prop}
  (hgrows : ∀ (goal : Fact) (walk : Walk), walk.Grows (prove goal walk).2)
  (hprove : ∀ goal walk, Conclusive allowed walk (prove goal walk) → prove' goal walk = prove goal walk)

include hgrows hprove

lemma proveEach_eq_of_conclusive {premises : List Fact} {walk : Walk}
    (h : Conclusive allowed walk (proveEach prove premises walk)) :
    proveEach prove' premises walk = proveEach prove premises walk := by
  induction premises generalizing walk with
  | nil => rfl
  | cons premise premises ih =>
      obtain ⟨hsome, hcutoffs⟩ := h
      have hmiddle := hgrows premise walk
      have hfirst := hprove premise walk
      unfold proveEach at hsome hcutoffs ⊢
      rcases hrun : prove premise walk with ⟨_ | ⟨derivation⟩ | ⟨reason⟩, middle⟩
      all_goals rw [hrun] at hsome hcutoffs hmiddle hfirst
      · simp at hsome
      · have hlast := grows_proveEach hgrows premises middle
        have hrest := @ih middle
        dsimp only at hsome hcutoffs
        rcases hrun' : proveEach prove premises middle with ⟨_ | _ | derivations, later⟩
        all_goals rw [hrun'] at hsome hcutoffs hlast hrest
        · simp at hsome
        all_goals
          rw [hfirst ⟨rfl, hcutoffs.imp_right ((Walk.Grows.refl walk).cutoffs_eq hmiddle hlast)⟩]
          dsimp only
          rw [hrest ⟨rfl, hcutoffs.imp_right (hmiddle.cutoffs_eq hlast (Walk.Grows.refl later))⟩, hrun']
      · rw [hfirst ⟨rfl, hcutoffs⟩]

lemma tryWays_eq_of_conclusive {goal : Fact} {ways : List Way} {walk : Walk}
    (h : Conclusive allowed walk (tryWays prove goal ways walk)) :
    tryWays prove' goal ways walk = tryWays prove goal ways walk := by
  induction ways generalizing walk with
  | nil => rfl
  | cons way ways ih =>
      obtain ⟨hsome, hcutoffs⟩ := h
      have hmiddle := grows_proveEach hgrows (way.premises goal) walk
      have hfirst := @proveEach_eq_of_conclusive _ _ _ hgrows hprove (way.premises goal) walk
      unfold tryWays at hsome hcutoffs ⊢
      rcases hrun : proveEach prove (way.premises goal) walk with ⟨_ | _ | derivations, middle⟩
      all_goals rw [hrun] at hsome hcutoffs hmiddle hfirst
      · simp at hsome
      · have hlast := grows_tryWays hgrows goal ways middle
        rw [hfirst ⟨rfl, hcutoffs.imp_right ((Walk.Grows.refl walk).cutoffs_eq hmiddle hlast)⟩]
        exact ih ⟨hsome, hcutoffs.imp_right (hmiddle.cutoffs_eq hlast (Walk.Grows.refl _))⟩
      · rw [hfirst ⟨rfl, hcutoffs⟩]

end Search

/-- **Larger limits change nothing** for a search that has come to a result with the given levels and, unless
the depth limit stays the same, without cutoffs. -/
theorem Graph.search_eq_of_le {graph : Graph} {limit limit' : Int} {levels levels' depth : ℕ}
    {pending : List Fact} {goal : Fact} {walk : Walk} (hlimits : limit ≤ limit') (hlevels : levels ≤ levels')
    (h : Conclusive (limit = limit') walk (graph.search limit levels depth pending goal walk)) :
    graph.search limit' levels' depth pending goal walk =
      graph.search limit levels depth pending goal walk := by
  induction levels generalizing levels' depth pending goal walk with
  | zero => simp [Conclusive, search] at h
  | succ levels ih =>
      obtain ⟨levels', rfl⟩ : ∃ n, levels' = n + 1 := ⟨levels' - 1, by omega⟩
      have hgrows := graph.grows_search limit levels (depth + 1) (goal :: pending)
      have hways := @tryWays_eq_of_conclusive _
        (graph.search limit' levels' (depth + 1) (goal :: pending)) _ hgrows
        (fun premise start => ih (Nat.le_of_succ_le_succ hlevels)) goal (graph.ways goal)
        ((walk.reach depth).visit goal.text).expand
      obtain ⟨hsome, hcutoffs⟩ := h
      unfold search at hsome hcutoffs ⊢
      by_cases hnew : goal.text ∈ walk.visited
      · rw [if_pos hnew, if_pos hnew]
      by_cases hlimit : limit < depth
      · -- a cutoff, so that the limit must be the same
        rw [if_neg hnew, if_pos hlimit] at hcutoffs
        obtain rfl := hcutoffs.resolve_right (Nat.succ_ne_self _)
        rw [if_neg hnew, if_pos hlimit, if_neg hnew, if_pos hlimit]
      have hlimit' : ¬ limit' < depth := by omega
      rw [if_neg hnew, if_neg hlimit] at hsome hcutoffs
      rw [if_neg hnew, if_neg hlimit', if_neg hnew, if_neg hlimit]
      by_cases hheld : graph.holds (graph.code goal) = true
      · rw [if_pos hheld, if_pos hheld]
      rw [if_neg hheld] at hsome hcutoffs
      rw [if_neg hheld, if_neg hheld]
      rcases hrun : tryWays (graph.search limit levels (depth + 1) (goal :: pending)) goal
        (graph.ways goal) ((walk.reach depth).visit goal.text).expand with ⟨_ | _ | derivation, later⟩
      all_goals rw [hrun] at hsome hcutoffs hways
      · simp at hsome
      all_goals rw [hways ⟨rfl, hcutoffs⟩]

end PrimeReasoner
