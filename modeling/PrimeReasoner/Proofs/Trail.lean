import PrimeReasoner.Proofs.Derivability
import PrimeReasoner.Proofs.Search.Meetings

/-!
# The trail of a question

A question that is answered over a store leads to further goals.  `Store.meetings` lists the goals that the search
decides, and what it leaves behind is an account of just these (`Sound.search`): the phrases visited are those of
the goals that were not met before, and each counter counts the goals of one kind.

All these goals consist of concepts that are in the table once the question has been encoded
(`Sound.knows_meetings`), so nothing else is entered on the way.
-/

namespace PrimeReasoner

/-- **The trail is an account of the meetings.** -/
structure Trail.Records (trail : Trail) (meetings : List Meeting) : Prop where
  /-- The phrases visited are those of the goals that were not met before, the latest first. -/
  visited : trail.visited = ((meetings.filter fun meeting => meeting.fate ≠ .again).map fun meeting =>
    meeting.goal.text).reverse
  /-- Every goal is counted. -/
  effort : trail.effort = account meetings

namespace Store

/-- The search for a goal over the store, with the given number of levels. -/
def search (store : Store) (limit : Int) (levels : ℕ) (goal : Fact) : Except Halt Verdict × Trail :=
  (decideGoal store.knowledge limit levels 0 goal).run.run { encoder := store.encoder }

/-- The goals that this search decides, in order. -/
def meetings (store : Store) (limit : Int) (levels : ℕ) (goal : Fact) : List Meeting :=
  (store.knowledge.graph (store.encoder.ready goal)).meetings limit levels 0 [] goal {}

variable {store : Store} {limit : Int} {levels : ℕ} {goal : Fact}

/-- The walk at the end is what the meetings leave behind. -/
lemma walk_search (store : Store) (limit : Int) (levels : ℕ) (goal : Fact) :
    ((store.knowledge.graph (store.encoder.ready goal)).search limit levels 0 [] goal {}).2 =
      (store.meetings limit levels goal).foldl
        (Walk.meet (store.knowledge.graph (store.encoder.ready goal))) {} := Graph.search_snd ..

/-- The work of the search is that of its meetings. -/
lemma effort_search (store : Store) (limit : Int) (levels : ℕ) (goal : Fact) :
    ((store.knowledge.graph (store.encoder.ready goal)).search limit levels 0 [] goal {}).2.effort =
      account (store.meetings limit levels goal) := by
  simp [walk_search, effort_foldl_meet, Effort.merge]

lemma records_trail (store : Store) (limit : Int) (levels : ℕ) (goal : Fact) (encoder : Encoder) :
    (((store.knowledge.graph (store.encoder.ready goal)).search limit levels 0 [] goal {}).2.trail
      encoder).Records (store.meetings limit levels goal) := by
  refine ⟨?_, store.effort_search limit levels goal⟩
  simp [Walk.trail, walk_search, visited_foldl_meet]

/-- **A search over a store** is a search on the graph of what is stored.  Its trail records its meetings, and has
the table with the concepts of the question. -/
lemma Sound.search (h : store.Sound) (hcomplete : goal.IsComplete) (limit : Int) (hlevels : 0 < levels) :
    let found := (store.knowledge.graph (store.encoder.ready goal)).search limit levels 0 [] goal {}
    ∃ later, (store.encoder.ready goal).Same later ∧
      (found.2.trail later).Records (store.meetings limit levels goal) ∧
      store.search limit levels goal = (levelsLeft found.1, found.2.trail later) := by
  obtain ⟨levels, rfl⟩ : ∃ n, levels = n + 1 := ⟨levels - 1, by omega⟩
  obtain ⟨later, hsame, hrun⟩ := h.fits.run_decideGoal h.encoder hcomplete limit levels
  refine ⟨later, hsame, store.records_trail limit (levels + 1) goal later, ?_⟩
  rw [Store.search, hrun]

/-- **Known goals only**: the concepts of all goals are in the table once the question has been encoded. -/
lemma Sound.knows_meetings (h : store.Sound) (hcomplete : goal.IsComplete) {meeting : Meeting}
    (hmeeting : meeting ∈ store.meetings limit levels goal) :
    (store.encoder.ready goal).Knows meeting.goal.concepts := by
  obtain ⟨hready, hgrows, hknows, -⟩ := h.encoder.ready hcomplete
  exact ((h.fits.grows h.encoder hready hgrows).isClosed hready).of_mem_meetings hknows hmeeting

end Store

end PrimeReasoner
