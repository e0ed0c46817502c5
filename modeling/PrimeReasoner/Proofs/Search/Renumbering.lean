import PrimeReasoner.Proofs.Search.Completeness

/-!
# Graphs that differ in their numbers

The numbers of the goals come from a table, and two tables may give the same goals different numbers.  The
search compares numbers in two places only: a number is looked up among the stored ones, and the number of a
failed goal is looked up among those of the goals met again.  If both look-ups come out alike, so does the
whole search.

**Renumbering.**  `Graph.Renumbers` says that two graphs agree on the goals of a domain but for their numbers,
and that goals with one number in the first graph have one number in the second.

**Lockstep.**  From walks that differ in the numbers of the goals met again (`Walk.Renumbered`), the two
searches come to the same result and to such walks again (`Graph.Renumbers.alike_search`).
-/

namespace PrimeReasoner

/-- On the goals of the domain, the graphs differ in the numbers only, and the same goals share a number. -/
structure Graph.Renumbers (graph other : Graph) (domain : Fact → Prop) : Prop where
  closed : graph.IsClosed domain
  ways : ∀ goal, domain goal → other.ways goal = graph.ways goal
  holds : ∀ goal, domain goal → other.holds (other.code goal) = graph.holds (graph.code goal)
  code : ∀ goal goal', domain goal → domain goal' →
    (other.code goal = other.code goal' ↔ graph.code goal = graph.code goal')

/-- The walks differ in the numbers of the goals met again only. -/
structure Walk.Renumbered (graph other : Graph) (domain : Fact → Prop) (walk walk' : Walk) : Prop where
  visited : walk'.visited = walk.visited
  effort : walk'.effort = walk.effort
  strays : walk'.strays = walk.strays
  looped : ∀ goal, domain goal → (other.code goal ∈ walk'.looped ↔ graph.code goal ∈ walk.looped)

variable {graph other : Graph} {domain : Fact → Prop}

/-- The results are the same, after walks that differ in numbers only. -/
def Walk.Alike {α : Type} (graph other : Graph) (domain : Fact → Prop) (result result' : α × Walk) : Prop :=
  ∃ a walk walk', result = (a, walk) ∧ result' = (a, walk') ∧ Walk.Renumbered graph other domain walk walk'

namespace Walk.Renumbered

variable {walk walk' : Walk}

lemma reach (h : Renumbered graph other domain walk walk') (depth : ℕ) :
    Renumbered graph other domain (walk.reach depth) (walk'.reach depth) :=
  ⟨h.visited, by simp [Walk.reach, h.effort], h.strays, h.looped⟩

lemma visit (h : Renumbered graph other domain walk walk') (phrase : String) :
    Renumbered graph other domain (walk.visit phrase) (walk'.visit phrase) :=
  ⟨by simp [Walk.visit, h.visited], h.effort, h.strays, h.looped⟩

lemma cutOff (h : Renumbered graph other domain walk walk') :
    Renumbered graph other domain walk.cutOff walk'.cutOff :=
  ⟨h.visited, by simp [Walk.cutOff, h.effort], h.strays, h.looped⟩

lemma expand (h : Renumbered graph other domain walk walk') :
    Renumbered graph other domain walk.expand walk'.expand :=
  ⟨h.visited, by simp [Walk.expand, h.effort], h.strays, h.looped⟩

lemma meetAgain (h : Renumbered graph other domain walk walk') (hgraph : graph.Renumbers other domain)
    (pending : List Fact) {goal : Fact} (hgoal : domain goal) :
    Renumbered graph other domain (walk.meetAgain pending goal (graph.code goal))
      (walk'.meetAgain pending goal (other.code goal)) := by
  refine ⟨h.visited, by simp [Walk.meetAgain, h.effort], by simp [Walk.meetAgain, h.strays], ?_⟩
  intro goal' hgoal'
  simp [Walk.meetAgain, h.looped goal' hgoal', hgraph.code goal' goal hgoal' hgoal]

/-- The two walks give the same reason for a refusal. -/
lemma refusal (h : Renumbered graph other domain walk walk') {goal : Fact} (hgoal : domain goal)
    (cutoffsBefore : ℕ) :
    walk'.refusal (other.code goal) cutoffsBefore = walk.refusal (graph.code goal) cutoffsBefore := by
  simp [Walk.refusal, h.effort, h.looped goal hgoal]

end Walk.Renumbered

/-- Two runs with the same outcome. -/
lemma Walk.Renumbered.alike {α : Type} {walk walk' : Walk} (h : Renumbered graph other domain walk walk')
    (a : α) : Walk.Alike graph other domain (a, walk) (a, walk') := ⟨a, walk, walk', rfl, rfl, h⟩

section Search

variable {prove prove' : Fact → Walk → Option Verdict × Walk}
  (hprove : ∀ goal, domain goal → ∀ walk walk', Walk.Renumbered graph other domain walk walk' →
    Walk.Alike graph other domain (prove goal walk) (prove' goal walk'))

include hprove

lemma alike_proveEach {premises : List Fact} (hpremises : ∀ premise ∈ premises, domain premise)
    {walk walk' : Walk} (hwalk : Walk.Renumbered graph other domain walk walk') :
    Walk.Alike graph other domain (proveEach prove premises walk) (proveEach prove' premises walk') := by
  induction premises generalizing walk walk' with
  | nil => exact hwalk.alike _
  | cons premise premises ih =>
      rw [List.forall_mem_cons] at hpremises
      obtain ⟨result, middle, middle', hfirst, hsecond, hmiddle⟩ :=
        hprove premise hpremises.1 walk walk' hwalk
      rw [proveEach, proveEach, hfirst, hsecond]
      rcases result with _ | ⟨derivation⟩ | ⟨reason⟩
      · exact hmiddle.alike _
      · obtain ⟨result, later, later', hfirst, hsecond, hlater⟩ := ih hpremises.2 hmiddle
        simp only [hfirst, hsecond]
        rcases result with _ | _ | derivations <;> exact hlater.alike _
      · exact hmiddle.alike _

lemma alike_tryWays {goal : Fact} {ways : List Way}
    (hways : ∀ way ∈ ways, ∀ premise ∈ way.premises goal, domain premise)
    {walk walk' : Walk} (hwalk : Walk.Renumbered graph other domain walk walk') :
    Walk.Alike graph other domain (tryWays prove goal ways walk) (tryWays prove' goal ways walk') := by
  induction ways generalizing walk walk' with
  | nil => exact hwalk.alike _
  | cons way ways ih =>
      rw [List.forall_mem_cons] at hways
      obtain ⟨result, middle, middle', hfirst, hsecond, hmiddle⟩ := alike_proveEach hprove hways.1 hwalk
      rw [tryWays, tryWays, hfirst, hsecond]
      rcases result with _ | _ | derivations
      · exact hmiddle.alike _
      · exact ih hways.2 hmiddle
      · exact hmiddle.alike _

end Search

/-- **The searches run in lockstep**, by induction on the levels. -/
theorem Graph.Renumbers.alike_search (h : graph.Renumbers other domain) (limit : Int) (levels depth : ℕ)
    (pending : List Fact) {goal : Fact} (hgoal : domain goal) {walk walk' : Walk}
    (hwalk : Walk.Renumbered graph other domain walk walk') :
    Walk.Alike graph other domain (graph.search limit levels depth pending goal walk)
      (other.search limit levels depth pending goal walk') := by
  induction levels generalizing depth pending goal walk walk' with
  | zero => exact hwalk.alike _
  | succ levels ih =>
      unfold search
      rw [hwalk.visited, hwalk.effort, h.holds goal hgoal, h.ways goal hgoal]
      split_ifs
      · exact ((hwalk.reach depth).meetAgain h pending hgoal).alike _
      · exact ((hwalk.reach depth).visit goal.text).cutOff.alike _
      · exact ((hwalk.reach depth).visit goal.text).expand.alike _
      · obtain ⟨result, later, later', hfirst, hsecond, hlater⟩ := alike_tryWays
          (fun goal' hgoal' walk walk' => ih (depth + 1) (goal :: pending) hgoal')
          (h.closed goal hgoal) ((hwalk.reach depth).visit goal.text).expand
        rw [hfirst, hsecond]
        rcases result with _ | _ | derivation
        · exact hlater.alike _
        · simp only [hlater.refusal hgoal]
          exact hlater.alike _
        · exact hlater.alike _

end PrimeReasoner
