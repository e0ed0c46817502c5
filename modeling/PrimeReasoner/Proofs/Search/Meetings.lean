import PrimeReasoner.Engine
import PrimeReasoner.Proofs.Search.Completeness

/-!
# The goals that the search meets

A walk tells what is left of a search: phrases, numbers and counters.  This file keeps the goals themselves.
`Graph.meetings` lists every goal that the search decides, in order, with its depth, the goals that wait for
it, and what happens to it: a goal was met before (`again`), it lies too deep (`tooDeep`), or it is looked into
(`opened`).

**The list is the walk.**  Each goal leaves one mark on the walk (`Walk.meet`), and the walk at the end is the
one at the beginning with the marks of all meetings (`Graph.search_snd`).  So whatever the walk says can be
read off the list: the phrases visited are those of the goals not met before (`visited_foldl_meet`), the
counters count the meetings by their fates (`effort_foldl_meet`), and the numbers of the goals met again are
there (`mem_looped_foldl_meet`).

**Where the goals come from.**  All goals but the first one are premises of ways, so they have every property
that passes from a goal to the premises of its ways (`Graph.mem_meetings`).
-/

namespace PrimeReasoner

/-- What happens to a goal that the search comes to. -/
inductive Fate where
  /-- It was met before, and is refused. -/
  | again
  /-- It lies too deep, and is refused. -/
  | tooDeep
  /-- It is looked into. -/
  | opened
deriving DecidableEq, Repr

/-- A goal that the search decides. -/
structure Meeting where
  goal : Fact
  depth : ℕ
  /-- The goals that wait for this one, the nearest first. -/
  pending : List Fact
  fate : Fate
deriving DecidableEq, Repr

namespace Walk

/-- What will happen to a goal at the given depth. -/
def fate (walk : Walk) (limit : Int) (depth : ℕ) (goal : Fact) : Fate :=
  if goal.text ∈ walk.visited then .again
  else if limit < depth then .tooDeep
  else .opened

/-- The mark that a meeting leaves. -/
def meet (graph : Graph) (walk : Walk) (meeting : Meeting) : Walk :=
  match meeting.fate with
  | .again =>
    (walk.reach meeting.depth).meetAgain meeting.pending meeting.goal (graph.code meeting.goal)
  | .tooDeep => ((walk.reach meeting.depth).visit meeting.goal.text).cutOff
  | .opened => ((walk.reach meeting.depth).visit meeting.goal.text).expand

end Walk

section Search

variable (prove : Fact → Walk → Option Verdict × Walk) (meet : Fact → Walk → List Meeting)

/-- The meetings while goals are established one after the other. -/
def meetEach : List Fact → Walk → List Meeting
  | [], _ => []
  | premise :: premises, walk =>
    meet premise walk ++
      match prove premise walk with
      | (some (.proved _), later) => meetEach premises later
      | _ => []

/-- The meetings while the ways to a goal are tried one after the other. -/
def meetWays (goal : Fact) : List Way → Walk → List Meeting
  | [], _ => []
  | way :: ways, walk =>
    meetEach prove meet (way.premises goal) walk ++
      match proveEach prove (way.premises goal) walk with
      | (some none, later) => meetWays goal ways later
      | _ => []

end Search

/-- **The goals that the search decides**, in order. -/
def Graph.meetings (graph : Graph) (limit : Int) :
    (levels depth : ℕ) → (pending : List Fact) → Fact → Walk → List Meeting
  | 0, _, _, _, _ => []
  | levels + 1, depth, pending, goal, walk =>
    ⟨goal, depth, pending, walk.fate limit depth goal⟩ ::
      if walk.fate limit depth goal = .opened ∧ graph.holds (graph.code goal) = false then
        meetWays (graph.search limit levels (depth + 1) (goal :: pending))
          (graph.meetings limit levels (depth + 1) (goal :: pending)) goal (graph.ways goal)
          ((walk.reach depth).visit goal.text).expand
      else []

/-! ## The list is the walk -/

section Search

variable {graph : Graph} {prove : Fact → Walk → Option Verdict × Walk} {meet : Fact → Walk → List Meeting}
  (hmeet : ∀ goal walk, (prove goal walk).2 = (meet goal walk).foldl (Walk.meet graph) walk)

include hmeet

lemma proveEach_snd (premises : List Fact) (walk : Walk) :
    (proveEach prove premises walk).2 =
      (meetEach prove meet premises walk).foldl (Walk.meet graph) walk := by
  induction premises generalizing walk with
  | nil => rfl
  | cons premise premises ih =>
      have hfirst := hmeet premise walk
      unfold proveEach meetEach
      rw [List.foldl_append, ← hfirst]
      rcases prove premise walk with ⟨_ | ⟨derivation⟩ | ⟨reason⟩, middle⟩
      · rfl
      · rw [← ih middle]
        dsimp only
        rcases proveEach prove premises middle with ⟨_ | _ | derivations, later⟩ <;> rfl
      · rfl

lemma tryWays_snd (goal : Fact) (ways : List Way) (walk : Walk) :
    (tryWays prove goal ways walk).2 =
      (meetWays prove meet goal ways walk).foldl (Walk.meet graph) walk := by
  induction ways generalizing walk with
  | nil => rfl
  | cons way ways ih =>
      have hfirst := proveEach_snd hmeet (way.premises goal) walk
      unfold tryWays meetWays
      rw [List.foldl_append, ← hfirst]
      rcases proveEach prove (way.premises goal) walk with ⟨_ | _ | derivations, middle⟩
      · rfl
      · exact ih middle
      · rfl

end Search

/-- **The walk is what the meetings leave behind.** -/
theorem Graph.search_snd (graph : Graph) (limit : Int) (levels depth : ℕ) (pending : List Fact)
    (goal : Fact) (walk : Walk) :
    (graph.search limit levels depth pending goal walk).2 =
      (graph.meetings limit levels depth pending goal walk).foldl (Walk.meet graph) walk := by
  induction levels generalizing depth pending goal walk with
  | zero => rfl
  | succ levels ih =>
      unfold search meetings
      by_cases hvisited : goal.text ∈ walk.visited
      · simp [Walk.fate, Walk.meet, hvisited]
      by_cases hlimit : limit < depth
      · simp [Walk.fate, Walk.meet, hvisited, hlimit]
      by_cases hheld : graph.holds (graph.code goal) = true
      · simp [Walk.fate, Walk.meet, hvisited, hlimit, hheld]
      have hways := tryWays_snd (ih (depth + 1) (goal :: pending)) goal (graph.ways goal)
        ((walk.reach depth).visit goal.text).expand
      simp only [Walk.fate, Walk.meet, hvisited, hlimit, hheld, if_false, and_self, if_true,
        List.foldl_cons, ← hways]
      rcases tryWays (graph.search limit levels (depth + 1) (goal :: pending)) goal (graph.ways goal)
        ((walk.reach depth).visit goal.text).expand with ⟨_ | _ | derivation, later⟩ <;> rfl

variable {graph : Graph}

/-- The phrases visited are those of the goals that were not met before. -/
lemma visited_foldl_meet (meetings : List Meeting) (walk : Walk) :
    (meetings.foldl (Walk.meet graph) walk).visited =
      ((meetings.filter fun meeting => meeting.fate ≠ .again).map fun meeting =>
        meeting.goal.text).reverse ++ walk.visited := by
  induction meetings generalizing walk with
  | nil => rfl
  | cons meeting meetings ih =>
      rw [List.foldl_cons, ih]
      rcases meeting with ⟨goal, depth, pending, _ | _ | _⟩ <;>
        simp [Walk.meet, Walk.reach, Walk.meetAgain, Walk.visit, Walk.cutOff, Walk.expand]

/-- The work that the meetings stand for. -/
def account (meetings : List Meeting) : Effort where
  expanded := (meetings.map Meeting.fate).count .opened
  cycles := (meetings.map Meeting.fate).count .again
  cutoffs := (meetings.map Meeting.fate).count .tooDeep
  deepest := (meetings.map Meeting.depth).foldr max 0

/-- The counters count the meetings, each by its fate. -/
lemma effort_foldl_meet (meetings : List Meeting) (walk : Walk) :
    (meetings.foldl (Walk.meet graph) walk).effort = walk.effort.merge (account meetings) := by
  induction meetings generalizing walk with
  | nil => simp [account, Effort.merge]
  | cons meeting meetings ih =>
      rw [List.foldl_cons, ih]
      rcases meeting with ⟨goal, depth, pending, _ | _ | _⟩ <;>
        simp [account, Effort.merge, Walk.meet, Walk.reach, Walk.meetAgain, Walk.visit, Walk.cutOff,
          Walk.expand, max_assoc] <;>
        omega

/-- The numbers of the goals met again are kept. -/
lemma mem_looped_foldl_meet {meetings : List Meeting} {walk : Walk} {n : ℕ} :
    n ∈ (meetings.foldl (Walk.meet graph) walk).looped ↔
      n ∈ walk.looped ∨ ∃ meeting ∈ meetings, meeting.fate = .again ∧ graph.code meeting.goal = n := by
  induction meetings generalizing walk with
  | nil => simp
  | cons meeting meetings ih =>
      rw [List.foldl_cons, ih]
      rcases meeting with ⟨goal, depth, pending, _ | _ | _⟩ <;>
        simp [Walk.meet, Walk.reach, Walk.meetAgain, Walk.visit, Walk.cutOff, Walk.expand, or_assoc,
          or_left_comm, eq_comm]

/-! ## Where the goals come from -/

section Search

variable {prove : Fact → Walk → Option Verdict × Walk} {meet : Fact → Walk → List Meeting} {meeting : Meeting}

lemma exists_of_mem_meetEach {premises : List Fact} {walk : Walk}
    (h : meeting ∈ meetEach prove meet premises walk) :
    ∃ premise ∈ premises, ∃ later, meeting ∈ meet premise later := by
  induction premises generalizing walk with
  | nil => simp [meetEach] at h
  | cons premise premises ih =>
      unfold meetEach at h
      rcases List.mem_append.mp h with h | h
      · exact ⟨premise, List.mem_cons_self, walk, h⟩
      rcases hrun : prove premise walk with ⟨_ | ⟨derivation⟩ | ⟨reason⟩, middle⟩
      all_goals rw [hrun] at h
      · simp at h
      · obtain ⟨other, hother, later, hmem⟩ := ih h
        exact ⟨other, List.mem_cons_of_mem premise hother, later, hmem⟩
      · simp at h

lemma exists_of_mem_meetWays {goal : Fact} {ways : List Way} {walk : Walk}
    (h : meeting ∈ meetWays prove meet goal ways walk) :
    ∃ way ∈ ways, ∃ premise ∈ way.premises goal, ∃ later, meeting ∈ meet premise later := by
  induction ways generalizing walk with
  | nil => simp [meetWays] at h
  | cons way ways ih =>
      unfold meetWays at h
      rcases List.mem_append.mp h with h | h
      · exact ⟨way, List.mem_cons_self, exists_of_mem_meetEach h⟩
      rcases hrun : proveEach prove (way.premises goal) walk with ⟨_ | _ | derivations, middle⟩
      all_goals rw [hrun] at h
      · simp at h
      · obtain ⟨other, hother, hpremise⟩ := ih h
        exact ⟨other, List.mem_cons_of_mem way hother, hpremise⟩
      · simp at h

end Search

/-- **Every goal but the first one** has what the premises of the first one have and pass on. -/
theorem Graph.mem_meetings {domain : Fact → Prop} (hclosed : graph.IsClosed domain) {limit : Int}
    {levels depth : ℕ} {pending : List Fact} {goal : Fact} {walk : Walk}
    (hpremises : ∀ way ∈ graph.ways goal, ∀ premise ∈ way.premises goal, domain premise)
    {meeting : Meeting} (h : meeting ∈ graph.meetings limit levels depth pending goal walk) :
    meeting = ⟨goal, depth, pending, walk.fate limit depth goal⟩ ∨ domain meeting.goal := by
  induction levels generalizing depth pending goal walk with
  | zero => simp [meetings] at h
  | succ levels ih =>
      unfold meetings at h
      refine (List.mem_cons.mp h).imp_right fun h => ?_
      split_ifs at h with hopened
      · obtain ⟨way, hway, premise, hpremise, later, hmem⟩ := exists_of_mem_meetWays h
        have hdomain := hpremises way hway premise hpremise
        rcases ih (hclosed premise hdomain) hmem with rfl | hgoal
        · exact hdomain
        · exact hgoal
      · simp at h

/-- A closed domain is not left. -/
lemma Graph.IsClosed.of_mem_meetings {domain : Fact → Prop} (hclosed : graph.IsClosed domain) {limit : Int}
    {levels depth : ℕ} {pending : List Fact} {goal : Fact} {walk : Walk} (hgoal : domain goal)
    {meeting : Meeting} (h : meeting ∈ graph.meetings limit levels depth pending goal walk) :
    domain meeting.goal := by
  rcases mem_meetings hclosed (hclosed goal hgoal) h with rfl | hmem
  · exact hgoal
  · exact hmem

end PrimeReasoner
