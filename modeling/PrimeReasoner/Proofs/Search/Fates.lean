import Mathlib.Data.List.Nodup
import PrimeReasoner.Proofs.Search.Meetings

/-!
# When the fates of goals are decided

`Graph.meetings` says what happens to each goal that the search decides.  It does not say how this depends on the
other goals, although the order of the checks matters: whether a goal was met before is asked first, then how deep it
lies, and only then is it looked into.

**In order.**  The fate of a goal depends on what the goals before it have left behind, and on nothing else
(`Graph.Fated`).  So a statement about all goals of a search is proved along the list, with no regard to how the
search goes about it: no phrase is visited twice (`Fated.nodup`), and the phrases visited are those of all goals,
also of the ones that are refused (`Fated.mem_visited`).

**Counting.**  Each goal has one fate, so the three counters add up to the number of goals, and two of them to the
number of phrases (`counts_account`).

**Depth.**  Only a goal within the limit is looked into, and what it leads to lies one level down.  So no goal but the
first one is more than one level below the limit (`Graph.depth_of_mem_meetings`).
-/

namespace PrimeReasoner

/-! ## Counting -/

/-- Each goal has one fate, and its phrase is new unless it was met before. -/
lemma counts_account (meetings : List Meeting) :
    (account meetings).expanded + (account meetings).cutoffs =
      (meetings.filter fun meeting => meeting.fate ≠ .again).length ∧
    (account meetings).expanded + (account meetings).cutoffs + (account meetings).cycles = meetings.length := by
  induction meetings with
  | nil => exact ⟨rfl, rfl⟩
  | cons meeting meetings ih =>
      rcases meeting with ⟨goal, depth, pending, _ | _ | _⟩ <;> simp [account] at ih ⊢ <;> omega

lemma deepest_account_le {meetings : List Meeting} {bound : ℕ}
    (h : ∀ meeting ∈ meetings, meeting.depth ≤ bound) : (account meetings).deepest ≤ bound := by
  induction meetings with
  | nil => exact Nat.zero_le bound
  | cons meeting meetings ih =>
      rw [List.forall_mem_cons] at h
      exact max_le h.1 (ih h.2)

namespace Walk

variable {graph : Graph} {limit : Int} {walk : Walk} {meeting : Meeting}

/-- **One goal**: its phrase is visited from then on, and no phrase has become visited twice. -/
lemma visited_meet (h : meeting.fate = walk.fate limit meeting.depth meeting.goal) :
    (walk.visited.Nodup → (walk.meet graph meeting).visited.Nodup) ∧
      ∀ phrase, phrase ∈ (walk.meet graph meeting).visited ↔
        meeting.goal.text = phrase ∨ phrase ∈ walk.visited := by
  by_cases hvisited : meeting.goal.text ∈ walk.visited
  · have hsame : (walk.meet graph meeting).visited = walk.visited := by
      simp [meet, h, fate, hvisited, meetAgain, reach]
    rw [hsame]
    refine ⟨id, fun phrase => ⟨.inr, ?_⟩⟩
    rintro (rfl | hphrase)
    · exact hvisited
    · exact hphrase
  · have hnew : (walk.meet graph meeting).visited = meeting.goal.text :: walk.visited := by
      by_cases hlimit : limit < meeting.depth <;>
        simp [meet, h, fate, hvisited, hlimit, visit, reach, cutOff, expand]
    rw [hnew]
    refine ⟨fun hnodup => List.nodup_cons.mpr ⟨hvisited, hnodup⟩, fun phrase => ?_⟩
    rw [List.mem_cons, eq_comm]

end Walk

/-! ## In order -/

/-- **The fates are decided in order**: each goal has the fate that the goals before it have left for it. -/
inductive Graph.Fated (graph : Graph) (limit : Int) : Walk → List Meeting → Prop where
  | nil (walk : Walk) : Fated graph limit walk []
  | cons {walk : Walk} {meeting : Meeting} {meetings : List Meeting}
      (hfate : meeting.fate = walk.fate limit meeting.depth meeting.goal)
      (hrest : Fated graph limit (walk.meet graph meeting) meetings) :
      Fated graph limit walk (meeting :: meetings)

namespace Graph.Fated

variable {graph : Graph} {limit : Int} {walk : Walk} {meetings : List Meeting}

lemma append {first second : List Meeting} (h : graph.Fated limit walk first)
    (h' : graph.Fated limit (first.foldl (Walk.meet graph) walk) second) :
    graph.Fated limit walk (first ++ second) := by
  induction h with
  | nil walk => exact h'
  | cons hfate _ ih => exact .cons hfate (ih h')

/-- No phrase is visited twice. -/
lemma nodup (h : graph.Fated limit walk meetings) (hwalk : walk.visited.Nodup) :
    (meetings.foldl (Walk.meet graph) walk).visited.Nodup := by
  induction h with
  | nil walk => exact hwalk
  | cons hfate _ ih => exact ih ((Walk.visited_meet hfate).1 hwalk)

/-- Every goal has its phrase visited, even if it is refused. -/
lemma mem_visited (h : graph.Fated limit walk meetings) (phrase : String) :
    phrase ∈ (meetings.foldl (Walk.meet graph) walk).visited ↔
      (∃ meeting ∈ meetings, meeting.goal.text = phrase) ∨ phrase ∈ walk.visited := by
  induction h with
  | nil walk => simp
  | cons hfate _ ih =>
      rw [List.foldl_cons, ih, (Walk.visited_meet hfate).2]
      simp only [List.mem_cons, exists_eq_or_imp]
      exact or_left_comm.trans or_assoc.symm

end Graph.Fated

section Search

variable {graph : Graph} {limit : Int} {prove : Fact → Walk → Option Verdict × Walk}
  {meet : Fact → Walk → List Meeting}
  (hmeet : ∀ goal walk, (prove goal walk).2 = (meet goal walk).foldl (Walk.meet graph) walk)
  (hfated : ∀ goal walk, graph.Fated limit walk (meet goal walk))

include hmeet hfated

lemma fated_meetEach (premises : List Fact) (walk : Walk) :
    graph.Fated limit walk (meetEach prove meet premises walk) := by
  induction premises generalizing walk with
  | nil => exact .nil walk
  | cons premise premises ih =>
      have hfirst := hmeet premise walk
      unfold meetEach
      refine (hfated premise walk).append ?_
      rw [← hfirst]
      rcases prove premise walk with ⟨_ | ⟨derivation⟩ | ⟨reason⟩, middle⟩
      · exact .nil middle
      · exact ih middle
      · exact .nil middle

lemma fated_meetWays (goal : Fact) (ways : List Way) (walk : Walk) :
    graph.Fated limit walk (meetWays prove meet goal ways walk) := by
  induction ways generalizing walk with
  | nil => exact .nil walk
  | cons way ways ih =>
      have hfirst := proveEach_snd hmeet (way.premises goal) walk
      unfold meetWays
      refine (fated_meetEach hmeet hfated (way.premises goal) walk).append ?_
      rw [← hfirst]
      rcases proveEach prove (way.premises goal) walk with ⟨_ | _ | derivations, middle⟩
      · exact .nil middle
      · exact ih middle
      · exact .nil middle

end Search

namespace Graph

variable {graph : Graph} {limit : Int} {levels depth : ℕ} {pending : List Fact} {goal : Fact} {walk : Walk}

/-- **The fates of a search are decided in order.** -/
theorem fated_meetings (graph : Graph) (limit : Int) (levels depth : ℕ) (pending : List Fact) (goal : Fact)
    (walk : Walk) : graph.Fated limit walk (graph.meetings limit levels depth pending goal walk) := by
  induction levels generalizing depth pending goal walk with
  | zero => exact .nil walk
  | succ levels ih =>
      unfold meetings
      refine .cons rfl ?_
      split_ifs with hopened
      · have hwalk : walk.meet graph ⟨goal, depth, pending, walk.fate limit depth goal⟩ =
            ((walk.reach depth).visit goal.text).expand := by
          rw [Walk.meet, hopened.1]
        rw [hwalk]
        exact fated_meetWays (graph.search_snd limit levels (depth + 1) (goal :: pending))
          (ih (depth + 1) (goal :: pending)) goal (graph.ways goal) _
      · exact .nil _

/-- A goal that is looked into lies within the limit. -/
lemma depth_le_of_opened (h : walk.fate limit depth goal = .opened) : (depth : Int) ≤ limit := by
  unfold Walk.fate at h
  split_ifs at h
  omega

/-- **No goal but the first one** is more than one level below the limit. -/
theorem depth_of_mem_meetings {meeting : Meeting}
    (h : meeting ∈ graph.meetings limit levels depth pending goal walk) :
    meeting.depth = depth ∨ (meeting.depth : Int) ≤ limit + 1 := by
  induction levels generalizing depth pending goal walk with
  | zero => simp [meetings] at h
  | succ levels ih =>
      unfold meetings at h
      rcases List.mem_cons.mp h with rfl | h
      · exact .inl rfl
      split_ifs at h with hopened
      · obtain ⟨way, -, premise, -, later, hmem⟩ := exists_of_mem_meetWays h
        have hdepth := depth_le_of_opened hopened.1
        rcases ih hmem with heq | hle
        · right
          omega
        · exact .inr hle
      · simp at h

/-- A goal that is proved has been looked into. -/
lemma expanded_pos_of_proved {derivation : Derivation}
    (h : (graph.search limit levels depth pending goal walk).1 = some (.proved derivation)) :
    0 < (account (graph.meetings limit levels depth pending goal walk)).expanded := by
  cases levels with
  | zero => simp [search] at h
  | succ levels =>
      have hnew : goal.text ∉ walk.visited := fun hvisited => by simp [search, hvisited] at h
      have hlimit : ¬ limit < depth := fun hlimit => by simp [search, hnew, hlimit] at h
      rw [meetings, Walk.fate, if_neg hnew, if_neg hlimit]
      simp [account]

end Graph

end PrimeReasoner
