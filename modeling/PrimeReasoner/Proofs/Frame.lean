import PrimeReasoner.Proofs.Trail

/-!
# What a deduction leaves behind

A deduction encodes its question, and every further goal as it comes.  Encoding enters concepts, so each of these
goals might leave something behind.  Only the question does.

**After the question**, the table is what encoding the question alone would have made of it, whether or not the
question can be encoded and the configured depth is a number (`Sound.same_deduce`).  The goals that the search
comes to later are put together from concepts that are known by then (`Sound.knows_meetings`), so deciding them
changes nothing (`Sound.table_decideGoal`).

**The frame** of a deduction is therefore the concepts of the question that are new, up to the first one that is
empty; no fact and no rule is touched (`deduce_frame`).
-/

namespace PrimeReasoner

/-- A trail is that of a walk. -/
lemma Trail.exists_walk (trail : Trail) : ∃ walk : Walk, trail = walk.trail trail.encoder :=
  ⟨⟨trail.visited, trail.looped, trail.effort, []⟩, rfl⟩

namespace Store

variable {store : Store} {goal : Fact}

/-- **A deduction and the table**: it is as if nothing but the question had been encoded. -/
lemma Sound.same_deduce (h : store.Sound) (engine : Engine) (goal : Fact) :
    (store.encoder.ready goal).Same (engine.deduce store.encoder store.knowledge goal).2.2 := by
  obtain ⟨hready, -, hresult⟩ := Encoder.asks_encodeFact goal store.encoder h.encoder
  have hsame : (store.encoder.ready goal).Same (store.encoder.ready goal) := hready.same
  cases hlimit : engine.depthBound with
  | error error =>
      rw [Engine.deduce_encoder_of_error hlimit, ← Encoder.ready]
      exact hsame
  | ok limit =>
      rcases hrun : (Encoder.encodeFact goal).run.run store.encoder with ⟨error | n, later⟩
      · have hlater : store.encoder.ready goal = later := by rw [Encoder.ready, hrun]
        rw [hlater] at hsame ⊢
        rw [Engine.deduce_of_error hrun]
        exact hsame
      · rw [hrun] at hresult
        obtain ⟨last, hlast, hdeduce⟩ := h.fits.deduce h.encoder hresult.1 hlimit
        rw [hdeduce]
        exact hlast

/-- The concepts that encoding the question enters. -/
lemma Sound.concepts_ready (h : store.Sound) (goal : Fact) :
    (store.encoder.ready goal).concepts = store.encoder.concepts ++
      (((untilBlank goal.concepts).map normalize).filter (· ∉ store.encoder.concepts)).eraseDups := by
  obtain ⟨-, hconcepts, -⟩ := Encoder.asks_encodeFact goal store.encoder h.encoder
  rw [Encoder.ready, hconcepts, requestAll_eq_append]
  exact fun given hgiven => ne_blank_of_mem_untilBlank hgiven

/-- **Deciding a further goal** changes nothing in the table, at whatever depth and after whatever else. -/
lemma Sound.table_decideGoal (h : store.Sound) (hcomplete : goal.IsComplete) {limit : Int} {levels : ℕ}
    {meeting : Meeting} (hmeeting : meeting ∈ store.meetings limit levels goal) {trail : Trail}
    (htrail : (store.encoder.ready goal).Same trail.encoder) (left depth : ℕ) :
    ((decideGoal store.knowledge limit left depth meeting.goal).run.run trail).2.encoder.table =
      trail.encoder.table := by
  obtain ⟨hready, hgrows, -, -⟩ := h.encoder.ready hcomplete
  have hfits := h.fits.grows h.encoder hready hgrows
  have hknows := h.knows_meetings hcomplete hmeeting
  obtain ⟨walk, hwalk⟩ := trail.exists_walk
  obtain ⟨later, hlater, hrun⟩ :=
    Search.follows_decideGoal hready hfits limit left depth [] hknows walk trail.encoder htrail
  rw [hwalk, hrun]
  exact hlater.table.trans htrail.table.symm

end Store

/-- **The frame of a deduction.**  Let an engine with any depth setting deduce any goal over a store in any state.
Whether it answers or fails, the facts, their numbers and the rules stay as they are.  The table afterwards has the
concepts from before, followed by those concepts of the goal that are new, in order, each once, and only up to the
first one that is empty; a concept keeps its prime, and a new one gets the next prime.  If there are further goals,
none of them enters anything, wherever in the search it is decided. -/
theorem deduce_frame {store : Store} (hstore : store.IsReachable) (engine : Engine) (goal : Fact) :
    let later := store.perform (.call (.deduce engine store.knowledge goal))
    later.knowledge = store.knowledge ∧
    later.encoder.concepts = store.encoder.concepts ++
      (((goal.concepts.takeWhile fun concept => normalize concept ≠ "").map normalize).filter
        (· ∉ store.encoder.concepts)).eraseDups ∧
    store.encoder.table <+: later.encoder.table ∧
    (∀ i, later.encoder.table[i]? =
      later.encoder.concepts[i]?.map fun concept => Entry.mk concept (Nat.nth Nat.Prime i)) ∧
    (goal.IsComplete → ∀ (limit : Int) (levels : ℕ), ∀ meeting ∈ store.meetings limit levels goal,
      ∀ trail : Trail, later.encoder.Same trail.encoder → ∀ left depth : ℕ,
        ((decideGoal store.knowledge limit left depth meeting.goal).run.run trail).2.encoder.table =
          trail.encoder.table) := by
  intro later
  have h := hstore.sound
  have hsame : (store.encoder.ready goal).Same later.encoder := h.same_deduce engine goal
  obtain ⟨-, hgrows⟩ := h.perform (.call (.deduce engine store.knowledge goal))
  refine ⟨rfl, ?_, hgrows.encoder, hsame.sound.getElem?_table, ?_⟩
  · rw [Encoder.concepts_congr hsame.table]
    exact h.concepts_ready goal
  · intro hcomplete limit levels meeting hmeeting trail htrail left depth
    exact h.table_decideGoal hcomplete hmeeting (hsame.trans htrail) left depth

/-- The concepts in the table when a goal has been deduced with the given depth setting. -/
def Store.conceptsAfter (store : Store) (depth : Setting) (goal : Fact) : List String :=
  (store.perform (.call (.deduce { machine := .usual, maxDepth := depth } store.knowledge goal))).encoder.concepts

/-- A question with a new concept and further goals, one at a depth that is no number, and one with an empty
concept. -/
theorem concepts_after_questions :
    1 < (mixedStore.meetings 400 Machine.usual.levels ⟨"z", "is", "d"⟩).length ∧
    mixedStore.conceptsAfter .null ⟨"z", "is", "d"⟩ = mixedStore.encoder.concepts ++ ["z"] ∧
    mixedStore.conceptsAfter (.text "deep") ⟨"y", "has", "y"⟩ = mixedStore.encoder.concepts ++ ["y"] ∧
    mixedStore.conceptsAfter .null ⟨"x", "", "w"⟩ = mixedStore.encoder.concepts ++ ["x"] := by
  have hstore : mixedStore.IsReachable := ⟨0, [], _, rfl⟩
  obtain ⟨-, hsearched, -⟩ := deduce_frame hstore { machine := .usual, maxDepth := .null } ⟨"z", "is", "d"⟩
  obtain ⟨-, hfailed, -⟩ :=
    deduce_frame hstore { machine := .usual, maxDepth := .text "deep" } ⟨"y", "has", "y"⟩
  obtain ⟨-, hempty, -⟩ := deduce_frame hstore { machine := .usual, maxDepth := .null } ⟨"x", "", "w"⟩
  simp only [Store.conceptsAfter, hsearched, hfailed, hempty]
  decide +kernel

end PrimeReasoner
