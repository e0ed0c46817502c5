import PrimeReasoner.Proofs.Search.Refinement

/-!
# The search along a path

A graph may leave the search no choice: from the first goal there is one way to the second, from there one way to the
third, and so on to the last goal, which is the only one that is stored (`Graph.IsPath`).  The search then goes along
the path, one level for each step.

**Within the limit.**  If the last goal is not too deep, the search arrives there, and the derivation is the path
(`IsPath.search_of_le`).  Each goal has been looked into once.

**Beyond the limit.**  Otherwise the search stops at the first goal that is too deep, and all goals on the way fail
for that reason (`IsPath.search_of_lt`).
-/

namespace PrimeReasoner

/-- The goals form a path: they can be told by their phrases, each has one way, to the next one, and only the last one
is stored. -/
structure Graph.IsPath (graph : Graph) (goals : ℕ → Fact) (links : ℕ → String) (last : ℕ) : Prop where
  text_injective : ∀ i j, i ≤ last → j ≤ last → (goals i).text = (goals j).text → i = j
  holds : ∀ i ≤ last, (graph.holds (graph.code (goals i)) = true ↔ i = last)
  ways : ∀ i < last, graph.ways (goals i) = [.linked (links i)]
  next : ∀ i < last, Way.premises (goals i) (.linked (links i)) = [goals (i + 1)]

/-- The derivation of a goal along so many links. -/
def Derivation.along (goals : ℕ → Fact) (links : ℕ → String) : (start steps : ℕ) → Derivation
  | start, 0 => .direct (goals start)
  | start, steps + 1 => .chained (goals start) (links start) (along goals links (start + 1) steps)

/-- The work from a goal on that is looked into, if the search goes at least as deep. -/
lemma Walk.merge_expand (walk : Walk) (phrase : String) {depth deepest : ℕ} (hdepth : depth ≤ deepest)
    (expanded cutoffs : ℕ) :
    ((walk.reach depth).visit phrase).expand.effort.merge ⟨expanded, 0, cutoffs, deepest⟩ =
      walk.effort.merge ⟨expanded + 1, 0, cutoffs, deepest⟩ := by
  simp only [reach, visit, expand, Effort.merge, Effort.mk.injEq, true_and]
  omega

namespace Graph.IsPath

variable {graph : Graph} {goals : ℕ → Fact} {links : ℕ → String} {last : ℕ} {limit : Int} {levels start steps : ℕ}
  {walk : Walk}

/-- No goal of the path from here on has been visited. -/
def Ahead (goals : ℕ → Fact) (last start : ℕ) (walk : Walk) : Prop :=
  ∀ i ≤ last, start ≤ i → (goals i).text ∉ walk.visited

lemma ahead_next (h : graph.IsPath goals links last) (hahead : Ahead goals last start walk)
    (hstart : start < last) :
    Ahead goals last (start + 1) ((walk.reach start).visit (goals start).text).expand := by
  intro i hi hle hmem
  rcases List.mem_cons.mp hmem with htext | hmem
  · have heq := h.text_injective i start hi hstart.le htext
    omega
  · exact hahead i hi (by omega) hmem

/-- **One step along the path**: a goal that is not the last one has the fate of the next one. -/
lemma search_succ (h : graph.IsPath goals links last) (hahead : Ahead goals last start walk)
    (hstart : start < last) (hlimit : (start : Int) ≤ limit) (pending : List Fact) :
    graph.search limit (levels + 1) start pending (goals start) walk =
      match graph.search limit levels (start + 1) (goals start :: pending) (goals (start + 1))
        ((walk.reach start).visit (goals start).text).expand with
      | (none, later) => (none, later)
      | (some (.proved rest), later) => (some (.proved (.chained (goals start) (links start) rest)), later)
      | (some (.refused _), later) =>
        (some (.refused (later.refusal (graph.code (goals start)) walk.effort.cutoffs)), later) := by
  have hheld : ¬ graph.holds (graph.code (goals start)) = true := by
    rw [h.holds start hstart.le]
    exact hstart.ne
  rw [search, if_neg (hahead start hstart.le le_rfl), if_neg (by omega), if_neg hheld, h.ways start hstart,
    tryWays, h.next start hstart, proveEach]
  rcases graph.search limit levels (start + 1) (goals start :: pending) (goals (start + 1))
    ((walk.reach start).visit (goals start).text).expand with ⟨_ | ⟨rest⟩ | ⟨reason⟩, later⟩
  · rfl
  · simp [proveEach, Way.conclude]
  · simp [tryWays]

/-- **Within the limit**, the search arrives at the last goal. -/
theorem search_of_le (h : graph.IsPath goals links last) (hlast : start + steps = last)
    (hlevels : steps < levels) (hlimit : (last : Int) ≤ limit) (hahead : Ahead goals last start walk)
    (pending : List Fact) :
    ∃ later, graph.search limit levels start pending (goals start) walk =
        (some (.proved (.along goals links start steps)), later) ∧
      later.effort = walk.effort.merge ⟨steps + 1, 0, 0, last⟩ := by
  induction steps generalizing levels start pending walk with
  | zero =>
      obtain ⟨levels, rfl⟩ := Nat.exists_eq_add_one.mpr hlevels
      obtain rfl : start = last := hlast
      have hheld := (h.holds start le_rfl).mpr rfl
      refine ⟨((walk.reach start).visit (goals start).text).expand, ?_, ?_⟩
      · rw [search, if_neg (hahead start le_rfl le_rfl), if_neg (by omega), if_pos hheld, Derivation.along]
      · simp [Walk.reach, Walk.visit, Walk.expand, Effort.merge]
  | succ steps ih =>
      obtain ⟨levels, rfl⟩ := Nat.exists_eq_add_one.mpr (Nat.zero_lt_of_lt hlevels)
      have hstart : start < last := by omega
      have hlevels' : steps < levels := Nat.lt_of_succ_lt_succ hlevels
      obtain ⟨later, hrun, heffort⟩ := ih (by omega) hlevels' (h.ahead_next hahead hstart) (goals start :: pending)
      refine ⟨later, ?_, ?_⟩
      · rw [h.search_succ hahead hstart (by omega), hrun, Derivation.along]
      · rw [heffort]
        exact walk.merge_expand _ (by omega) _ _

/-- **Beyond the limit**, the search stops at the first goal that is too deep. -/
theorem search_of_lt {deepest : ℕ} (h : graph.IsPath goals links last) (hlast : deepest < last)
    (hsteps : start + steps = deepest + 1) (hlevels : steps < levels) (hlimit : limit = deepest)
    (hahead : Ahead goals last start walk) (pending : List Fact) :
    ∃ later, graph.search limit levels start pending (goals start) walk = (some (.refused .tooDeep), later) ∧
      later.effort = walk.effort.merge ⟨steps, 0, 1, deepest + 1⟩ := by
  induction steps generalizing levels start pending walk with
  | zero =>
      obtain ⟨levels, rfl⟩ := Nat.exists_eq_add_one.mpr hlevels
      refine ⟨((walk.reach start).visit (goals start).text).cutOff, ?_, ?_⟩
      · rw [search, if_neg (hahead start (by omega) le_rfl), if_pos (by omega)]
      · simp [Walk.reach, Walk.visit, Walk.cutOff, Effort.merge, ← hsteps]
  | succ steps ih =>
      obtain ⟨levels, rfl⟩ := Nat.exists_eq_add_one.mpr (Nat.zero_lt_of_lt hlevels)
      have hstart : start < last := by omega
      have hlevels' : steps < levels := Nat.lt_of_succ_lt_succ hlevels
      obtain ⟨later, hrun, heffort⟩ := ih (by omega) hlevels' (h.ahead_next hahead hstart) (goals start :: pending)
      -- the cutoff further on is the reason for the refusal here as well
      have hcutoffs : walk.effort.cutoffs < later.effort.cutoffs := by
        rw [heffort]
        exact Nat.lt_succ_self _
      refine ⟨later, ?_, ?_⟩
      · rw [h.search_succ hahead hstart (by omega), hrun]
        simp [Walk.refusal, hcutoffs]
      · rw [heffort]
        exact walk.merge_expand _ (by omega) _ _

theorem answer_of_le (h : graph.IsPath goals links last) (hlimit : (last : Int) ≤ limit)
    (hlevels : last < levels) :
    graph.answer limit levels (goals 0) = (.proved (.along goals links 0 last), ⟨last + 1, 0, 0, last⟩) := by
  have hahead : Ahead goals last 0 {} := fun _ _ _ => List.not_mem_nil
  obtain ⟨later, hrun, heffort⟩ := h.search_of_le (Nat.zero_add last) hlevels hlimit hahead []
  rw [answer, hrun]
  simp [heffort, Effort.merge]

theorem answer_of_lt {deepest : ℕ} (h : graph.IsPath goals links last) (hlast : deepest < last)
    (hlevels : deepest + 1 < levels) :
    graph.answer deepest levels (goals 0) = (.refused .tooDeep, ⟨deepest + 1, 0, 1, deepest + 1⟩) := by
  have hahead : Ahead goals last 0 {} := fun _ _ _ => List.not_mem_nil
  obtain ⟨later, hrun, heffort⟩ := h.search_of_lt hlast (Nat.zero_add _) hlevels rfl hahead []
  rw [answer, hrun]
  simp [heffort, Effort.merge]

end Graph.IsPath

end PrimeReasoner
