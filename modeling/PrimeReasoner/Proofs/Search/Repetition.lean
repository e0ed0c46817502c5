import PrimeReasoner.Proofs.Search.Meetings
import PrimeReasoner.Proofs.Search.Refinement

/-!
# Ways that come again

What is learned twice is stored twice, and so a way to a goal may come more than once.  It comes again only after
its first copy has failed.  By then its first premise has been met, so the second copy fails at once: the premise is
refused as met before, and the only traces are a circle on the account and a number among those met again.

**Repetition.**  `Repeats` says that a list is another one with elements that come again; `Graph.Repeats` says that
the ways of one graph are so related to those of another.

**Echoes.**  A walk echoes another one if it differs by more circles and more numbers met again only
(`Walk.Echoes`).  The two searches lead from such walks to such walks (`Graph.Repeats.echoes_search`), with the same
derivation if there is one.  A refusal may change its reason, as more numbers have been met again
(`Verdict.Echoes`).
-/

namespace PrimeReasoner

/-! ## Lists with repetitions -/

/-- The second list is the first one with further copies of elements that came before or are among those seen. -/
inductive Repeats {α : Type} : List α → List α → List α → Prop
  | nil (seen : List α) : Repeats seen [] []
  | step {seen xs ys : List α} (x : α) (h : Repeats (x :: seen) xs ys) : Repeats seen (x :: xs) (x :: ys)
  | again {seen xs ys : List α} {x : α} (hseen : x ∈ seen) (h : Repeats seen xs ys) : Repeats seen xs (x :: ys)

namespace Repeats

variable {α β : Type} {seen seen' xs ys xs' ys' : List α}

lemma mono (h : Repeats seen xs ys) (hsubset : seen ⊆ seen') : Repeats seen' xs ys := by
  induction h generalizing seen' with
  | nil => exact .nil seen'
  | step x _ ih => exact .step x (ih (List.cons_subset_cons x hsubset))
  | again hseen _ ih => exact .again (hsubset hseen) (ih hsubset)

lemma append (h : Repeats seen xs ys) (h' : Repeats seen xs' ys') : Repeats seen (xs ++ xs') (ys ++ ys') := by
  induction h with
  | nil => exact h'
  | step x _ ih => exact .step x (ih (h'.mono (List.subset_cons_self x _)))
  | again hseen _ ih => exact .again hseen (ih h')

lemma of_subset (hsubset : ys ⊆ seen) : Repeats seen [] ys := by
  induction ys with
  | nil => exact .nil seen
  | cons y ys ih =>
      rw [List.cons_subset] at hsubset
      exact .again hsubset.1 (ih hsubset.2)

lemma append_of_subset (hsubset : ys ⊆ xs ++ seen) : Repeats seen xs (xs ++ ys) := by
  induction xs generalizing seen with
  | nil => exact of_subset hsubset
  | cons x xs ih =>
      refine .step x (ih fun y hy => ?_)
      have hmem := hsubset hy
      simp only [List.cons_append, List.mem_cons, List.mem_append] at hmem ⊢
      tauto

lemma filterMap (f : α → Option β) (hinitial : xs <+: ys) (hsubset : ys ⊆ xs) :
    Repeats [] (xs.filterMap f) (ys.filterMap f) := by
  obtain ⟨more, rfl⟩ := hinitial
  rw [List.filterMap_append]
  refine append_of_subset ?_
  rw [List.append_nil]
  exact List.filterMap_subset f (List.append_subset.mp hsubset).2

end Repeats

/-! ## What the repetitions leave behind -/

/-- The work with more circles. -/
def Effort.withCircles (effort : Effort) (circles : ℕ) : Effort :=
  { effort with cycles := effort.cycles + circles }

/-- The later walk has more circles on its account and more numbers met again, and is otherwise the same. -/
structure Walk.Echoes (walk walk' : Walk) : Prop where
  visited : walk'.visited = walk.visited
  looped : walk.looped ⊆ walk'.looped
  effort : ∃ circles, walk'.effort = walk.effort.withCircles circles

/-- The same verdict, but what could not be derived may be refused as circular. -/
def Verdict.Echoes (verdict verdict' : Verdict) : Prop :=
  verdict' = verdict ∨ verdict = .refused .underivable ∧ verdict' = .refused .circular

lemma Verdict.Echoes.eq_of_proved {derivation : Derivation} {verdict : Verdict}
    (h : (Verdict.proved derivation).Echoes verdict) : verdict = .proved derivation := by
  simpa [Verdict.Echoes] using h

lemma Verdict.Echoes.exists_refused {reason : Refusal} {verdict : Verdict}
    (h : (Verdict.refused reason).Echoes verdict) : ∃ reason', verdict = .refused reason' := by
  rcases h with rfl | ⟨-, rfl⟩
  · exact ⟨reason, rfl⟩
  · exact ⟨.circular, rfl⟩

/-- The results are related, after walks that echo each other. -/
def Walk.EchoesBy {α : Type} (related : α → α → Prop) (run run' : α × Walk) : Prop :=
  ∃ a a' walk walk', run = (a, walk) ∧ run' = (a', walk') ∧ related a a' ∧ Walk.Echoes walk walk'

namespace Walk.Echoes

variable {walk walk' : Walk}

lemma refl (walk : Walk) : walk.Echoes walk := ⟨rfl, List.Subset.refl _, 0, rfl⟩

lemma runs {α : Type} {related : α → α → Prop} {a a' : α} (h : walk.Echoes walk') (ha : related a a') :
    Walk.EchoesBy related (a, walk) (a', walk') := ⟨a, a', walk, walk', rfl, rfl, ha, h⟩

lemma reach (h : walk.Echoes walk') (depth : ℕ) : (walk.reach depth).Echoes (walk'.reach depth) := by
  obtain ⟨circles, heffort⟩ := h.effort
  exact ⟨h.visited, h.looped, circles, by simp [Walk.reach, heffort, Effort.withCircles]⟩

lemma visit (h : walk.Echoes walk') (phrase : String) : (walk.visit phrase).Echoes (walk'.visit phrase) :=
  ⟨by simp [Walk.visit, h.visited], h.looped, h.effort⟩

lemma cutOff (h : walk.Echoes walk') : walk.cutOff.Echoes walk'.cutOff := by
  obtain ⟨circles, heffort⟩ := h.effort
  exact ⟨h.visited, h.looped, circles, by simp [Walk.cutOff, heffort, Effort.withCircles]⟩

lemma expand (h : walk.Echoes walk') : walk.expand.Echoes walk'.expand := by
  obtain ⟨circles, heffort⟩ := h.effort
  exact ⟨h.visited, h.looped, circles, by simp [Walk.expand, heffort, Effort.withCircles]⟩

lemma meetAgain (h : walk.Echoes walk') (pending : List Fact) (goal : Fact) (code : ℕ) :
    (walk.meetAgain pending goal code).Echoes (walk'.meetAgain pending goal code) := by
  obtain ⟨circles, heffort⟩ := h.effort
  refine ⟨h.visited, List.cons_subset_cons code h.looped, circles, ?_⟩
  simp [Walk.meetAgain, heffort, Effort.withCircles]
  omega

/-- A goal that is met again without going deeper adds a circle. -/
lemma met_again (h : walk.Echoes walk') {depth : ℕ} (hdepth : depth ≤ walk.effort.deepest)
    (pending : List Fact) (goal : Fact) (code : ℕ) :
    walk.Echoes ((walk'.reach depth).meetAgain pending goal code) := by
  obtain ⟨circles, heffort⟩ := h.effort
  refine ⟨h.visited, List.subset_cons_of_subset code h.looped, circles + 1, ?_⟩
  simp [Walk.meetAgain, Walk.reach, heffort, hdepth, Effort.withCircles]
  omega

lemma cutoffs_eq (h : walk.Echoes walk') : walk'.effort.cutoffs = walk.effort.cutoffs := by
  obtain ⟨circles, heffort⟩ := h.effort
  rw [heffort, Effort.withCircles]

lemma refusal (h : walk.Echoes walk') (code cutoffsBefore : ℕ) :
    (Verdict.refused (walk.refusal code cutoffsBefore)).Echoes
      (.refused (walk'.refusal code cutoffsBefore)) := by
  simp only [Walk.refusal, h.cutoffs_eq, List.contains_iff_mem]
  by_cases hcutoffs : cutoffsBefore < walk.effort.cutoffs
  · simp [hcutoffs, Verdict.Echoes]
  by_cases hlooped : code ∈ walk.looped
  · simp [hcutoffs, hlooped, h.looped hlooped, Verdict.Echoes]
  · by_cases hlooped' : code ∈ walk'.looped <;> simp [hcutoffs, hlooped, hlooped', Verdict.Echoes]

end Walk.Echoes

/-! ## Goals that have been met -/

/-- The goal has been met, and the search has been as deep; there are levels left to meet it again. -/
structure Walk.HasMet (walk : Walk) (levels depth : ℕ) (goal : Fact) : Prop where
  levels : 0 < levels
  visited : goal.text ∈ walk.visited
  deepest : depth ≤ walk.effort.deepest

variable {graph other : Graph} {limit : Int} {levels depth : ℕ} {pending : List Fact} {goal premise : Fact}
  {walk walk' : Walk}

lemma Walk.HasMet.foldl (h : walk.HasMet levels depth goal) (meetings : List Meeting) :
    (meetings.foldl (Walk.meet graph) walk).HasMet levels depth goal := by
  refine ⟨h.levels, ?_, ?_⟩
  · rw [visited_foldl_meet]
    exact List.mem_append_right _ h.visited
  · rw [effort_foldl_meet]
    exact le_trans h.deepest (le_max_left _ _)

lemma Walk.HasMet.proveEach (h : walk.HasMet levels depth goal) (premises : List Fact) :
    (proveEach (graph.search limit levels depth pending) premises walk).2.HasMet levels depth goal := by
  rw [proveEach_snd (graph.search_snd limit levels depth pending)]
  exact h.foldl _

/-- A search with a result has met its goal. -/
lemma Graph.hasMet_search (hsome : (graph.search limit levels depth pending goal walk).1.isSome = true) :
    (graph.search limit levels depth pending goal walk).2.HasMet levels depth goal := by
  cases levels with
  | zero => simp [search] at hsome
  | succ levels =>
      rw [search_snd, meetings, List.foldl_cons]
      refine Walk.HasMet.foldl ⟨Nat.succ_pos levels, ?_, ?_⟩ _
      · unfold Walk.fate Walk.meet
        split_ifs with hvisited
        · exact hvisited
        · exact List.mem_cons_self
        · exact List.mem_cons_self
      · unfold Walk.fate Walk.meet
        split_ifs <;> exact le_max_right _ _

/-- A way that has been tried has met its first premise. -/
lemma hasMet_proveEach {premises : List Fact}
    (hsome : (proveEach (graph.search limit levels depth pending) (premise :: premises) walk).1.isSome = true) :
    (proveEach (graph.search limit levels depth pending) (premise :: premises) walk).2.HasMet
      levels depth premise := by
  have hmet := @Graph.hasMet_search graph limit levels depth pending premise walk
  unfold proveEach at hsome ⊢
  rcases hrun : graph.search limit levels depth pending premise walk with ⟨_ | ⟨derivation⟩ | ⟨reason⟩, middle⟩
  all_goals rw [hrun] at hsome hmet
  · simp at hsome
  · have hrest := @Walk.HasMet.proveEach graph limit levels depth pending premise middle (hmet rfl) premises
    dsimp only
    rcases hlater : proveEach (graph.search limit levels depth pending) premises middle with
      ⟨_ | _ | derivations, later⟩
    all_goals rw [hlater] at hrest; exact hrest
  · exact hmet rfl

/-- A goal that has been met is refused, which leaves no more than a circle behind. -/
lemma Walk.Echoes.search_of_hasMet (h : walk.Echoes walk') (hmet : walk.HasMet levels depth goal) :
    ∃ later, graph.search limit levels depth pending goal walk' = (some (.refused .circular), later) ∧
      walk.Echoes later := by
  obtain ⟨levels, rfl⟩ := Nat.exists_eq_add_one.mpr hmet.levels
  refine ⟨(walk'.reach depth).meetAgain pending goal (graph.code goal), ?_,
    h.met_again hmet.deepest pending goal _⟩
  rw [Graph.search, if_pos (h.visited ▸ hmet.visited)]

/-! ## The two searches -/

/-- On the goals of the domain, the other graph differs in that ways come again only, and no way is without
premises. -/
structure Graph.Repeats (graph other : Graph) (domain : Fact → Prop) : Prop where
  closed : graph.IsClosed domain
  code : ∀ goal, domain goal → other.code goal = graph.code goal
  holds : ∀ goal, domain goal → other.holds (other.code goal) = graph.holds (graph.code goal)
  ways : ∀ goal, domain goal → PrimeReasoner.Repeats [] (graph.ways goal) (other.ways goal)
  premises : ∀ goal, domain goal → ∀ way ∈ graph.ways goal, way.premises goal ≠ []

variable {domain : Fact → Prop}

lemma echoes_proveEach {prove prove' : Fact → Walk → Option Verdict × Walk}
    (hprove : ∀ goal, domain goal → ∀ walk walk', Walk.Echoes walk walk' →
      Walk.EchoesBy (Option.Rel Verdict.Echoes) (prove goal walk) (prove' goal walk'))
    {premises : List Fact} (hpremises : ∀ premise ∈ premises, domain premise) (hwalk : walk.Echoes walk') :
    Walk.EchoesBy (· = ·) (proveEach prove premises walk) (proveEach prove' premises walk') := by
  induction premises generalizing walk walk' with
  | nil => exact hwalk.runs rfl
  | cons premise premises ih =>
      rw [List.forall_mem_cons] at hpremises
      obtain ⟨result, result', middle, middle', hfirst, hsecond, hresult, hmiddle⟩ :=
        hprove premise hpremises.1 walk walk' hwalk
      rw [proveEach, proveEach, hfirst, hsecond]
      cases hresult with
      | none => exact hmiddle.runs rfl
      | @some verdict verdict' hverdict =>
          cases verdict with
          | proved derivation =>
              obtain rfl := hverdict.eq_of_proved
              obtain ⟨rest, _, later, later', hfirst', hsecond', rfl, hlater⟩ := ih hpremises.2 hmiddle
              simp only [hfirst', hsecond']
              rcases rest with _ | _ | derivations <;> exact hlater.runs rfl
          | refused reason =>
              obtain ⟨reason', rfl⟩ := hverdict.exists_refused
              exact hmiddle.runs rfl

/-- **The ways that come again fail**, by induction on how they are repeated.  The invariant is that the first
premises of the ways seen have been met. -/
lemma echoes_tryWays
    (hprove : ∀ goal, domain goal → ∀ walk walk', Walk.Echoes walk walk' →
      Walk.EchoesBy (Option.Rel Verdict.Echoes) (graph.search limit levels depth pending goal walk)
        (other.search limit levels depth pending goal walk'))
    {seen ways ways' : List Way} (hrepeats : Repeats seen ways ways')
    (hseen : ∀ way ∈ seen, ∃ premise premises, way.premises goal = premise :: premises ∧
      walk.HasMet levels depth premise)
    (hways : ∀ way ∈ ways, way.premises goal ≠ [] ∧ ∀ premise ∈ way.premises goal, domain premise)
    (hwalk : walk.Echoes walk') :
    Walk.EchoesBy (· = ·) (tryWays (graph.search limit levels depth pending) goal ways walk)
      (tryWays (other.search limit levels depth pending) goal ways' walk') := by
  induction hrepeats generalizing walk walk' with
  | nil => exact hwalk.runs rfl
  | @step seen ways ways' way _ ih =>
      rw [List.forall_mem_cons] at hways
      obtain ⟨premise, premises, hpremises⟩ := List.exists_cons_of_ne_nil hways.1.1
      obtain ⟨result, _, middle, middle', hfirst, hsecond, rfl, hmiddle⟩ :=
        echoes_proveEach hprove hways.1.2 hwalk
      rw [tryWays, tryWays, hfirst, hsecond]
      rcases result with _ | _ | derivations
      · exact hmiddle.runs rfl
      · refine ih (fun tried htried => ?_) hways.2 hmiddle
        have hmiddle' : middle = (proveEach (graph.search limit levels depth pending)
            (way.premises goal) walk).2 := by rw [hfirst]
        -- the way that has just failed is among those seen from here on
        rcases List.mem_cons.mp htried with rfl | htried
        · refine ⟨premise, premises, hpremises, ?_⟩
          rw [hmiddle', hpremises]
          rw [hpremises] at hfirst
          exact hasMet_proveEach (by rw [hfirst]; rfl)
        · obtain ⟨first, rest, hfirst', hmet⟩ := hseen tried htried
          exact ⟨first, rest, hfirst', hmiddle' ▸ hmet.proveEach _⟩
      · exact hmiddle.runs rfl
  | @again seen ways ways' way hmem _ ih =>
      obtain ⟨premise, premises, hpremises, hmet⟩ := hseen way hmem
      -- a step of the second search only: it fails at the first premise, and the first search waits
      obtain ⟨later, hrun, hlater⟩ :
          ∃ later, other.search limit levels depth pending premise walk' = (some (.refused .circular), later) ∧
            walk.Echoes later := hwalk.search_of_hasMet hmet
      rw [tryWays, hpremises, proveEach, hrun]
      exact ih hseen hways hlater

/-- **The searches echo each other**, by induction on the levels. -/
theorem Graph.Repeats.echoes_search (h : graph.Repeats other domain) (limit : Int) (levels depth : ℕ)
    (pending : List Fact) (hgoal : domain goal) (hwalk : walk.Echoes walk') :
    Walk.EchoesBy (Option.Rel Verdict.Echoes) (graph.search limit levels depth pending goal walk)
      (other.search limit levels depth pending goal walk') := by
  induction levels generalizing depth pending goal walk walk' with
  | zero => exact hwalk.runs .none
  | succ levels ih =>
      unfold search
      rw [hwalk.visited, hwalk.cutoffs_eq, h.holds goal hgoal, h.code goal hgoal]
      split_ifs
      · exact ((hwalk.reach depth).meetAgain pending goal _).runs (.some (.inl rfl))
      · exact ((hwalk.reach depth).visit goal.text).cutOff.runs (.some (.inl rfl))
      · exact ((hwalk.reach depth).visit goal.text).expand.runs (.some (.inl rfl))
      · obtain ⟨result, _, later, later', hfirst, hsecond, rfl, hlater⟩ := echoes_tryWays
          (fun premise hpremise walk walk' => ih (depth + 1) (goal :: pending) hpremise)
          (h.ways goal hgoal) (by simp)
          (fun way hway => ⟨h.premises goal hgoal way hway, h.closed goal hgoal way hway⟩)
          ((hwalk.reach depth).visit goal.text).expand
        rw [hfirst, hsecond]
        rcases result with _ | _ | derivation
        · exact hlater.runs .none
        · exact hlater.runs (.some (hlater.refusal _ _))
        · exact hlater.runs (.some (.inl rfl))

/-- **The answers echo each other**: nothing but the number of circles changes on the account. -/
theorem Graph.Repeats.echoes_answer (h : graph.Repeats other domain) (hgoal : domain goal) (limit : Int)
    (levels : ℕ) :
    (graph.answer limit levels goal).1.Echoes (other.answer limit levels goal).1 ∧
      ∃ circles, (other.answer limit levels goal).2 = (graph.answer limit levels goal).2.withCircles circles := by
  obtain ⟨result, result', later, later', hfirst, hsecond, hresult, hlater⟩ :=
    h.echoes_search limit levels 0 [] hgoal (Walk.Echoes.refl {})
  obtain ⟨circles, heffort⟩ := hlater.effort
  unfold answer
  rw [hfirst, hsecond]
  cases hresult with
  | none => exact ⟨.inl rfl, circles, by simp [heffort, Effort.withCircles]⟩
  | some hverdict => exact ⟨hverdict, circles, heffort⟩

end PrimeReasoner
