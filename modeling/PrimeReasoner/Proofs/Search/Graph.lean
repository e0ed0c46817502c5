import Mathlib.Data.List.Basic
import Mathlib.Data.Nat.Basic
import PrimeReasoner.Search

/-!
# The search on a graph of goals

What the search does is easier to see when nothing is encoded on the way.  Over a table that does not
change, a goal has a fixed number, it is stored or not, and there is a fixed list of ways to it, each of
which leads to further goals.  That is a graph (`Graph`), and `Graph.search` is the search on it.

**Walks.**  A `Walk` is what the search remembers: the phrases of the goals met, the numbers of those
met again, and the effort.  There is no result (`none`) if the levels are used up.

**Strays.**  The goals that are being worked on are handed down (`pending`).  A goal met again that is one
of them closes a circle.  Any other is a stray: it is refused although nothing waits for it.  Strays are
noted on the walk; the search does not look at them.

**Ways.**  All ways are alike: the premises are established one after the other (`proveEach`), and if
one of them fails, the next way is tried (`tryWays`).  They differ in the premises and in the node of
the derivation that they end with (`Way.premises`, `Way.conclude`).

**Derivability.**  `Graph.Derives` is what the search looks for, without its limits.

**Growth.**  Whatever the search does, it forgets no visit and its counters do not go back
(`Graph.grows_search`).
-/

namespace PrimeReasoner

/-- A way to a goal. -/
inductive Way where
  /-- A statement about all members of a category yields the goal. -/
  | member (quantifier : Quantifier) (category property : String)
  /-- An implication with these conditions yields the goal. -/
  | implied (conditions : List Fact)
  /-- A stored fact leads from the goal's subject to this concept. -/
  | linked (link : String)

namespace Way

/-- The goals that are left to establish. -/
def premises (goal : Fact) : Way → List Fact
  | .member _ category _ => [Fact.of goal.subject "is" category]
  | .implied conditions => conditions
  | .linked link => [Fact.of link goal.predicate goal.object]

/-- The derivation of the goal from those of the premises. -/
def conclude (goal : Fact) : Way → List Derivation → Derivation
  | .member quantifier category property, membership :: _ =>
    .quantified goal quantifier category property membership
  | .linked link, rest :: _ => .chained goal link rest
  | _, derivations => .implied goal derivations

end Way

/-- Goals with their numbers, and what leads to them. -/
structure Graph where
  code : Fact → ℕ
  holds : ℕ → Bool
  /-- The ways to a goal, in the order in which they are tried. -/
  ways : Fact → List Way

/-- What the search on a graph carries along. -/
structure Walk where
  visited : List String := []
  looped : List ℕ := []
  effort : Effort := {}
  /-- The goals that were met again while they were not being worked on. -/
  strays : List Fact := []

namespace Walk

def reach (walk : Walk) (depth : ℕ) : Walk :=
  { walk with effort.deepest := max walk.effort.deepest depth }

/-- Notes that a goal with the given number was met again. -/
def meetAgain (walk : Walk) (pending : List Fact) (goal : Fact) (code : ℕ) : Walk :=
  { walk with
    looped := code :: walk.looped
    effort.cycles := walk.effort.cycles + 1
    strays := if goal ∈ pending then walk.strays else goal :: walk.strays }

def visit (walk : Walk) (phrase : String) : Walk :=
  { walk with visited := phrase :: walk.visited }

def cutOff (walk : Walk) : Walk :=
  { walk with effort.cutoffs := walk.effort.cutoffs + 1 }

def expand (walk : Walk) : Walk :=
  { walk with effort.expanded := walk.effort.expanded + 1 }

/-- The reason why no way led to a goal. -/
def refusal (walk : Walk) (code cutoffsBefore : ℕ) : Refusal :=
  if cutoffsBefore < walk.effort.cutoffs then .tooDeep
  else if walk.looped.contains code then .circular
  else .underivable

end Walk

/-! ## The search -/

section Search

variable (prove : Fact → Walk → Option Verdict × Walk)

/-- Establishes goals one after the other, up to the first that fails. -/
def proveEach : List Fact → Walk → Option (Option (List Derivation)) × Walk
  | [], walk => (some (some []), walk)
  | premise :: premises, walk =>
    match prove premise walk with
    | (none, walk) => (none, walk)
    | (some (.refused _), walk) => (some none, walk)
    | (some (.proved derivation), walk) =>
      match proveEach premises walk with
      | (some (some derivations), walk) => (some (some (derivation :: derivations)), walk)
      | (result, walk) => (result, walk)

/-- Tries the ways to a goal one after the other, up to the first that succeeds. -/
def tryWays (goal : Fact) : List Way → Walk → Option (Option Derivation) × Walk
  | [], walk => (some none, walk)
  | way :: ways, walk =>
    match proveEach prove (way.premises goal) walk with
    | (none, walk) => (none, walk)
    | (some none, walk) => tryWays goal ways walk
    | (some (some derivations), walk) => (some (some (way.conclude goal derivations)), walk)

end Search

namespace Graph

/-- The search for a goal at the given depth, with the given number of levels left, for the sake of the
pending goals. -/
def search (graph : Graph) (limit : Int) :
    (levels depth : ℕ) → (pending : List Fact) → Fact → Walk → Option Verdict × Walk
  | 0, _, _, _, walk => (none, walk)
  | levels + 1, depth, pending, goal, walk =>
    if goal.text ∈ walk.visited then
      (some (.refused .circular), (walk.reach depth).meetAgain pending goal (graph.code goal))
    else if limit < depth then
      (some (.refused .tooDeep), ((walk.reach depth).visit goal.text).cutOff)
    else if graph.holds (graph.code goal) then
      (some (.proved (.direct goal)), ((walk.reach depth).visit goal.text).expand)
    else
      match tryWays (graph.search limit levels (depth + 1) (goal :: pending)) goal (graph.ways goal)
        ((walk.reach depth).visit goal.text).expand with
      | (none, later) => (none, later)
      | (some (some derivation), later) => (some (.proved derivation), later)
      | (some none, later) =>
        (some (.refused (later.refusal (graph.code goal) walk.effort.cutoffs)), later)

/-- **Derivability.**  The goal is stored, or there is a way to it whose premises can be derived. -/
inductive Derives (graph : Graph) : Fact → Prop where
  | held {goal : Fact} (h : graph.holds (graph.code goal) = true) : Derives graph goal
  | way {goal : Fact} {way : Way} (hway : way ∈ graph.ways goal)
      (hpremises : ∀ premise ∈ way.premises goal, Derives graph premise) : Derives graph goal

end Graph

/-! ## Walks only grow -/

/-- No visit and no stray is forgotten, and the cutoffs do not go back. -/
structure Walk.Grows (walk later : Walk) : Prop where
  visited : walk.visited ⊆ later.visited
  strays : walk.strays ⊆ later.strays
  cutoffs : walk.effort.cutoffs ≤ later.effort.cutoffs

lemma Walk.Grows.refl (walk : Walk) : walk.Grows walk := ⟨List.Subset.refl _, List.Subset.refl _, le_rfl⟩

lemma Walk.Grows.trans {first second third : Walk} (h : first.Grows second) (h' : second.Grows third) :
    first.Grows third :=
  ⟨List.Subset.trans h.visited h'.visited, List.Subset.trans h.strays h'.strays,
    le_trans h.cutoffs h'.cutoffs⟩

/-- If there was no cutoff on the whole, there was none in between. -/
lemma Walk.Grows.cutoffs_eq {first second third last : Walk} (h : first.Grows second)
    (h' : second.Grows third) (h'' : third.Grows last)
    (heq : last.effort.cutoffs = first.effort.cutoffs) :
    third.effort.cutoffs = second.effort.cutoffs := by
  have hfirst := h.cutoffs
  have hmiddle := h'.cutoffs
  have hlast := h''.cutoffs
  omega

section Search

variable {prove : Fact → Walk → Option Verdict × Walk}

lemma grows_proveEach (hprove : ∀ (goal : Fact) (walk : Walk), walk.Grows (prove goal walk).2)
    (premises : List Fact) (walk : Walk) : walk.Grows (proveEach prove premises walk).2 := by
  induction premises generalizing walk with
  | nil => exact .refl walk
  | cons premise premises ih =>
      have hfirst := hprove premise walk
      unfold proveEach
      rcases hrun : prove premise walk with ⟨_ | ⟨derivation⟩ | ⟨reason⟩, middle⟩
      all_goals rw [hrun] at hfirst
      · exact hfirst
      · have hrest := ih middle
        dsimp only
        rcases hlater : proveEach prove premises middle with ⟨_ | _ | derivations, later⟩
        all_goals rw [hlater] at hrest; exact hfirst.trans hrest
      · exact hfirst

lemma grows_tryWays (hprove : ∀ (goal : Fact) (walk : Walk), walk.Grows (prove goal walk).2) (goal : Fact)
    (ways : List Way) (walk : Walk) : walk.Grows (tryWays prove goal ways walk).2 := by
  induction ways generalizing walk with
  | nil => exact .refl walk
  | cons way ways ih =>
      have hfirst := grows_proveEach hprove (way.premises goal) walk
      unfold tryWays
      rcases hrun : proveEach prove (way.premises goal) walk with ⟨_ | _ | derivations, middle⟩
      all_goals rw [hrun] at hfirst
      · exact hfirst
      · exact hfirst.trans (ih middle)
      · exact hfirst

end Search

lemma Walk.grows_visit (walk : Walk) (depth : ℕ) (phrase : String) :
    walk.Grows ((walk.reach depth).visit phrase).expand :=
  ⟨List.subset_cons_self _ _, List.Subset.refl _, le_rfl⟩

lemma Walk.grows_meetAgain (walk : Walk) (depth : ℕ) (pending : List Fact) (goal : Fact) (code : ℕ) :
    walk.Grows ((walk.reach depth).meetAgain pending goal code) := by
  refine ⟨List.Subset.refl _, ?_, le_rfl⟩
  unfold Walk.meetAgain Walk.reach
  dsimp only
  split_ifs
  · exact List.Subset.refl _
  · exact List.subset_cons_self _ _

lemma Graph.grows_search (graph : Graph) (limit : Int) (levels depth : ℕ) (pending : List Fact)
    (goal : Fact) (walk : Walk) :
    walk.Grows (graph.search limit levels depth pending goal walk).2 := by
  induction levels generalizing depth pending goal walk with
  | zero => exact .refl walk
  | succ levels ih =>
      unfold Graph.search
      split_ifs
      · exact walk.grows_meetAgain depth pending goal (graph.code goal)
      · exact ⟨List.subset_cons_self _ _, List.Subset.refl _, Nat.le_succ _⟩
      · exact walk.grows_visit depth goal.text
      · have hways := grows_tryWays (ih (depth + 1) (goal :: pending)) goal (graph.ways goal)
          ((walk.reach depth).visit goal.text).expand
        rcases hrun : tryWays (graph.search limit levels (depth + 1) (goal :: pending)) goal
          (graph.ways goal) ((walk.reach depth).visit goal.text).expand with ⟨_ | _ | derivation, later⟩
        all_goals
          rw [hrun] at hways
          exact (walk.grows_visit depth goal.text).trans hways

end PrimeReasoner
