import PrimeReasoner.Proofs.Search.Graph

/-!
# When the search finds nothing

A refusal does not mean that a goal cannot be derived.  The search may have been cut off, and it refuses
a goal that it has met before, even if it was able to establish it then.  This file says when a refusal
does settle the matter.

**Circles do no harm.**  A goal that is met again while it is being worked on may be refused: whatever can
be derived can be derived without going in a circle.  So a refusal without a cutoff is final if the goals
met again at other times, the strays, cannot be derived (`not_derives_of_refused`).  The induction speaks
of derivations that keep clear of the pending goals (`DerivesWithout`).

**One premise at a time.**  If every way has a single premise, a goal that was met before has either been
refused or led to success at once.  So after a refusal all that was visited is exhausted: it is not
stored, and each way from it leads to a goal visited too (`Exhausted`).  If goals can be told by their
phrases, none of them can be derived (`Exhausted.not_derives`).
-/

namespace PrimeReasoner

section Search

variable {prove : Fact → Walk → Option Verdict × Walk}

/-- The goal was refused in some run between the two walks. -/
def RefusedWithin (prove : Fact → Walk → Option Verdict × Walk) (walk later : Walk) (goal : Fact) :
    Prop :=
  ∃ start reason, walk.Grows start ∧ (prove goal start).1 = some (.refused reason) ∧
    (prove goal start).2.Grows later

/-- Where premises fail, one of them is refused. -/
lemma refused_proveEach (hgrows : ∀ (goal : Fact) (walk : Walk), walk.Grows (prove goal walk).2)
    {premises : List Fact} {walk : Walk} (h : (proveEach prove premises walk).1 = some none) :
    ∃ premise ∈ premises, RefusedWithin prove walk (proveEach prove premises walk).2 premise := by
  induction premises generalizing walk with
  | nil => simp [proveEach] at h
  | cons premise premises ih =>
      have hmiddle := hgrows premise walk
      unfold proveEach at h ⊢
      rcases hrun : prove premise walk with ⟨_ | ⟨derivation⟩ | ⟨reason⟩, middle⟩
      all_goals rw [hrun] at h hmiddle
      · simp at h
      · have hrest := @ih middle
        dsimp only at h ⊢
        rcases hlater : proveEach prove premises middle with ⟨_ | _ | derivations, later⟩
        all_goals rw [hlater] at h hrest
        · simp at h
        · obtain ⟨refused, hmem, start, reason, hstart, hrefused, hend⟩ := hrest rfl
          exact ⟨refused, List.mem_cons_of_mem premise hmem, start, reason, hmiddle.trans hstart,
            hrefused, hend⟩
        · simp at h
      · exact ⟨premise, List.mem_cons_self, walk, reason, .refl walk, by rw [hrun],
          by rw [hrun]; exact .refl middle⟩

/-- Where all ways fail, each has a premise that is refused. -/
lemma refused_tryWays (hgrows : ∀ (goal : Fact) (walk : Walk), walk.Grows (prove goal walk).2)
    {goal : Fact} {ways : List Way} {walk : Walk} (h : (tryWays prove goal ways walk).1 = some none) :
    ∀ way ∈ ways, ∃ premise ∈ way.premises goal,
      RefusedWithin prove walk (tryWays prove goal ways walk).2 premise := by
  induction ways generalizing walk with
  | nil => simp
  | cons way ways ih =>
      have hmiddle := grows_proveEach hgrows (way.premises goal) walk
      have hrefused := @refused_proveEach _ hgrows (way.premises goal) walk
      unfold tryWays at h ⊢
      rcases hrun : proveEach prove (way.premises goal) walk with ⟨_ | _ | derivations, middle⟩
      all_goals rw [hrun] at h hmiddle hrefused
      · simp at h
      · have hlast := grows_tryWays hgrows goal ways middle
        intro other hother
        rcases List.mem_cons.mp hother with rfl | hother
        · obtain ⟨premise, hpremise, start, reason, hstart, hreason, hend⟩ := hrefused rfl
          exact ⟨premise, hpremise, start, reason, hstart, hreason, hend.trans hlast⟩
        · obtain ⟨premise, hpremise, start, reason, hstart, hreason, hend⟩ := ih h other hother
          exact ⟨premise, hpremise, start, reason, hmiddle.trans hstart, hreason, hend⟩
      · simp at h

end Search

namespace Graph

variable {graph : Graph} {limit : Int} {levels depth : ℕ} {pending : List Fact} {goal : Fact} {walk : Walk}

/-- **The reasons for a refusal**: the goal was met before, it lies too deep, or all ways to it fail. -/
lemma refused_search {reason : Refusal}
    (h : (graph.search limit (levels + 1) depth pending goal walk).1 = some (.refused reason)) :
    (goal.text ∈ walk.visited ∧ (graph.search limit (levels + 1) depth pending goal walk).2 =
      (walk.reach depth).meetAgain pending goal (graph.code goal)) ∨
    (limit < depth ∧ walk.effort.cutoffs <
      (graph.search limit (levels + 1) depth pending goal walk).2.effort.cutoffs) ∨
    (graph.holds (graph.code goal) = false ∧
      (tryWays (graph.search limit levels (depth + 1) (goal :: pending)) goal (graph.ways goal)
        ((walk.reach depth).visit goal.text).expand).1 = some none ∧
      (graph.search limit (levels + 1) depth pending goal walk).2 =
        (tryWays (graph.search limit levels (depth + 1) (goal :: pending)) goal (graph.ways goal)
          ((walk.reach depth).visit goal.text).expand).2) := by
  unfold search at h ⊢
  split_ifs at h ⊢ with hnew hlimit hheld
  · exact .inl ⟨hnew, rfl⟩
  · exact .inr (.inl ⟨hlimit, Nat.lt_succ_self _⟩)
  · simp at h
  · rcases hrun : tryWays (graph.search limit levels (depth + 1) (goal :: pending)) goal
      (graph.ways goal) ((walk.reach depth).visit goal.text).expand with ⟨_ | _ | derivation, later⟩
    all_goals rw [hrun] at h
    · simp at h
    · exact .inr (.inr ⟨by simpa using hheld, rfl, rfl⟩)
    · simp at h

/-! ## Derivations without circles -/

/-- The goal can be derived without any of the goals to avoid. -/
inductive DerivesWithout (graph : Graph) (avoided : List Fact) : Fact → Prop where
  | held {goal : Fact} (hnew : goal ∉ avoided) (h : graph.holds (graph.code goal) = true) :
      DerivesWithout graph avoided goal
  | way {goal : Fact} {way : Way} (hnew : goal ∉ avoided) (hway : way ∈ graph.ways goal)
      (hpremises : ∀ premise ∈ way.premises goal, DerivesWithout graph avoided premise) :
      DerivesWithout graph avoided goal

variable {avoided : List Fact} {other : Fact}

lemma DerivesWithout.not_mem (h : graph.DerivesWithout avoided goal) : goal ∉ avoided := by
  cases h with
  | held hnew _ => exact hnew
  | way hnew _ _ => exact hnew

lemma DerivesWithout.derives (h : graph.DerivesWithout avoided goal) : graph.Derives goal := by
  induction h with
  | held _ hholds => exact .held hholds
  | way _ hway _ ih => exact .way hway ih

lemma Derives.without_nil (h : graph.Derives goal) : graph.DerivesWithout [] goal := by
  induction h with
  | held hholds => exact .held List.not_mem_nil hholds
  | way hway _ ih => exact .way List.not_mem_nil hway ih

/-- The goal is stored, or it follows from premises that do not need it. -/
def Begins (graph : Graph) (avoided : List Fact) (goal : Fact) : Prop :=
  graph.holds (graph.code goal) = true ∨ ∃ way ∈ graph.ways goal,
    ∀ premise ∈ way.premises goal, graph.DerivesWithout (goal :: avoided) premise

/-- A derivation keeps clear of a further goal, or that goal has a derivation without itself. -/
lemma DerivesWithout.avoid (h : graph.DerivesWithout avoided other) (goal : Fact) :
    graph.DerivesWithout (goal :: avoided) other ∨ graph.Begins avoided goal := by
  induction h with
  | @held other hnew hholds =>
      by_cases heq : other = goal
      · subst heq
        exact .inr (.inl hholds)
      · exact .inl (.held (by simp [heq, hnew]) hholds)
  | @way other way hnew hway _ ih =>
      by_cases hbegins : graph.Begins avoided goal
      · exact .inr hbegins
      have hpremises : ∀ premise ∈ way.premises other,
          graph.DerivesWithout (goal :: avoided) premise := fun premise hpremise =>
        (ih premise hpremise).resolve_right hbegins
      by_cases heq : other = goal
      · subst heq
        exact .inr (.inr ⟨way, hway, hpremises⟩)
      · exact .inl (.way (by simp [heq, hnew]) hway hpremises)

lemma DerivesWithout.begins (h : graph.DerivesWithout avoided goal) : graph.Begins avoided goal :=
  (h.avoid goal).resolve_left fun hself => hself.not_mem List.mem_cons_self

/-- The premises of the ways to a goal of the domain are in the domain. -/
def IsClosed (graph : Graph) (domain : Fact → Prop) : Prop :=
  ∀ goal, domain goal → ∀ way ∈ graph.ways goal, ∀ premise ∈ way.premises goal, domain premise

variable {domain : Fact → Prop}

/-- **A refusal without cutoffs is final** for derivations without the pending goals, if no stray can be
derived. -/
theorem not_derivesWithout_of_refused {reason : Refusal} (hclosed : graph.IsClosed domain)
    (hdomain : domain goal)
    (h : (graph.search limit levels depth pending goal walk).1 = some (.refused reason))
    (hcutoffs : (graph.search limit levels depth pending goal walk).2.effort.cutoffs =
      walk.effort.cutoffs)
    (hstrays : ∀ stray ∈ (graph.search limit levels depth pending goal walk).2.strays,
      domain stray → ¬ graph.Derives stray) :
    ¬ graph.DerivesWithout pending goal := by
  induction levels generalizing depth pending goal walk reason with
  | zero => simp [search] at h
  | succ levels ih =>
      intro hderives
      rcases refused_search h with ⟨-, hlast⟩ | ⟨-, hmore⟩ | ⟨hheld, hfail, hlast⟩
      · rw [hlast] at hstrays
        refine hstrays goal ?_ hdomain hderives.derives
        simp [Walk.meetAgain, hderives.not_mem]
      · omega
      · rcases hderives.begins with hholds | ⟨way, hway, hpremises⟩
        · simp [hheld] at hholds
        · have hgrows := graph.grows_search limit levels (depth + 1) (goal :: pending)
          obtain ⟨premise, hpremise, start, reason, hstart, hrefused, hend⟩ :=
            refused_tryWays hgrows hfail way hway
          rw [← hlast] at hend
          have hfirst := (walk.grows_visit depth goal.text).trans hstart
          exact ih (hclosed goal hdomain way hway premise hpremise) hrefused
            (hfirst.cutoffs_eq (hgrows premise start) hend hcutoffs)
            (fun stray hstray => hstrays stray (hend.strays hstray)) (hpremises premise hpremise)

theorem not_derives_of_refused {reason : Refusal} (hclosed : graph.IsClosed domain)
    (hdomain : domain goal)
    (h : (graph.search limit levels depth [] goal walk).1 = some (.refused reason))
    (hcutoffs : (graph.search limit levels depth [] goal walk).2.effort.cutoffs = walk.effort.cutoffs)
    (hstrays : ∀ stray ∈ (graph.search limit levels depth [] goal walk).2.strays,
      domain stray → ¬ graph.Derives stray) :
    ¬ graph.Derives goal := fun hderives =>
  not_derivesWithout_of_refused hclosed hdomain h hcutoffs hstrays hderives.without_nil

/-! ## One premise at a time -/

/-- Every way to a goal of the domain has one premise, in the domain again. -/
def IsLinear (graph : Graph) (domain : Fact → Prop) : Prop :=
  ∀ goal, domain goal → ∀ way ∈ graph.ways goal,
    ∃ premise, way.premises goal = [premise] ∧ domain premise

/-- What was visited in the meantime has been tried in vain: it is not stored, and every way leads to a
goal that was visited too. -/
def Exhausted (graph : Graph) (domain : Fact → Prop) (before after : List String) : Prop :=
  ∀ phrase ∈ after, phrase ∉ before →
    ∃ goal, domain goal ∧ goal.text = phrase ∧ graph.holds (graph.code goal) = false ∧
      ∀ way ∈ graph.ways goal, ∃ premise ∈ way.premises goal, domain premise ∧ premise.text ∈ after

lemma exhausted_refl (visited : List String) : graph.Exhausted domain visited visited :=
  fun _ hmem hnew => absurd hmem hnew

lemma Exhausted.trans {before middle after : List String} (h : graph.Exhausted domain before middle)
    (h' : graph.Exhausted domain middle after) (hafter : middle ⊆ after) :
    graph.Exhausted domain before after := by
  intro phrase hphrase hnew
  by_cases hmiddle : phrase ∈ middle
  · obtain ⟨goal, hgoal, htext, hheld, hways⟩ := h phrase hmiddle hnew
    refine ⟨goal, hgoal, htext, hheld, fun way hway => ?_⟩
    obtain ⟨premise, hpremise, hdomain, hvisited⟩ := hways way hway
    exact ⟨premise, hpremise, hdomain, hafter hvisited⟩
  · exact h' phrase hphrase hmiddle

/-- What the procedure refuses without a cutoff it has exhausted. -/
def Exhausts (graph : Graph) (domain : Fact → Prop) (prove : Fact → Walk → Option Verdict × Walk) :
    Prop :=
  ∀ goal walk reason, domain goal → (prove goal walk).1 = some (.refused reason) →
    (prove goal walk).2.effort.cutoffs = walk.effort.cutoffs →
    goal.text ∈ (prove goal walk).2.visited ∧
      graph.Exhausted domain walk.visited (prove goal walk).2.visited

lemma exhausted_tryWays {prove : Fact → Walk → Option Verdict × Walk}
    (hgrows : ∀ (goal : Fact) (walk : Walk), walk.Grows (prove goal walk).2)
    (hprove : graph.Exhausts domain prove) {ways : List Way}
    (hlinear : ∀ way ∈ ways, ∃ premise, way.premises goal = [premise] ∧ domain premise)
    (h : (tryWays prove goal ways walk).1 = some none)
    (hcutoffs : (tryWays prove goal ways walk).2.effort.cutoffs = walk.effort.cutoffs) :
    graph.Exhausted domain walk.visited (tryWays prove goal ways walk).2.visited ∧
      ∀ way ∈ ways, ∃ premise ∈ way.premises goal, domain premise ∧
        premise.text ∈ (tryWays prove goal ways walk).2.visited := by
  induction ways generalizing walk with
  | nil => exact ⟨exhausted_refl _, by simp⟩
  | cons way ways ih =>
      obtain ⟨premise, hpremise, hdomain⟩ := hlinear way List.mem_cons_self
      have hmiddle := hgrows premise walk
      have hexhausted := hprove premise walk
      unfold tryWays at h hcutoffs ⊢
      rw [hpremise, proveEach] at h hcutoffs ⊢
      rcases hrun : prove premise walk with ⟨_ | ⟨derivation⟩ | ⟨reason⟩, middle⟩
      all_goals rw [hrun] at h hcutoffs hmiddle hexhausted
      · simp at h
      · simp [proveEach] at h
      · dsimp only at h hcutoffs ⊢
        have hlast := grows_tryWays hgrows goal ways middle
        have hunmoved := (Walk.Grows.refl walk).cutoffs_eq hmiddle hlast hcutoffs
        obtain ⟨htext, hfirst⟩ := hexhausted reason hdomain rfl hunmoved
        obtain ⟨hrest, hways⟩ := ih (fun other hother => hlinear other (List.mem_cons_of_mem way hother))
          h (hcutoffs.trans hunmoved.symm)
        refine ⟨hfirst.trans hrest hlast.visited, ?_⟩
        rw [List.forall_mem_cons]
        exact ⟨⟨premise, by simp [hpremise], hdomain, hlast.visited htext⟩, hways⟩

theorem exhausts_search (hlinear : graph.IsLinear domain) :
    graph.Exhausts domain (graph.search limit levels depth pending) := by
  induction levels generalizing depth pending with
  | zero =>
      intro goal walk reason _ h
      simp [search] at h
  | succ levels ih =>
      intro goal walk reason hdomain h hcutoffs
      rcases refused_search h with ⟨hvisited, hlast⟩ | ⟨-, hmore⟩ | ⟨hheld, hfail, hlast⟩
      · rw [hlast]
        exact ⟨hvisited, exhausted_refl _⟩
      · omega
      · rw [hlast] at hcutoffs ⊢
        have hgrows := graph.grows_search limit levels (depth + 1) (goal :: pending)
        have hkept := (grows_tryWays hgrows goal (graph.ways goal)
          ((walk.reach depth).visit goal.text).expand).visited
        obtain ⟨hexhausted, hways⟩ := exhausted_tryWays hgrows ih (hlinear goal hdomain) hfail hcutoffs
        refine ⟨hkept List.mem_cons_self, fun phrase hphrase hnew => ?_⟩
        by_cases hgoal : phrase = goal.text
        · exact ⟨goal, hdomain, hgoal.symm, hheld, hways⟩
        · refine hexhausted phrase hphrase fun hmem => ?_
          rcases List.mem_cons.mp hmem with hmem | hmem
          · exact hgoal hmem
          · exact hnew hmem

/-- **What is exhausted cannot be derived**, if goals can be told by their phrases. -/
theorem Exhausted.not_derives {visited : List String} (h : graph.Exhausted domain [] visited)
    (hphrases : ∀ goal other, domain goal → domain other → goal.text = other.text → goal = other)
    (hdomain : domain goal) (hgoal : goal.text ∈ visited) : ¬ graph.Derives goal := by
  intro hderives
  induction hderives with
  | @held goal hholds =>
      obtain ⟨other, hother, htext, hheld, -⟩ := h goal.text hgoal List.not_mem_nil
      obtain rfl := hphrases other goal hother hdomain htext
      simp [hheld] at hholds
  | @way goal way hway _ ih =>
      obtain ⟨other, hother, htext, -, hways⟩ := h goal.text hgoal List.not_mem_nil
      obtain rfl := hphrases other goal hother hdomain htext
      obtain ⟨premise, hpremise, hpremiseDomain, hvisited⟩ := hways way hway
      exact ih premise hpremise hpremiseDomain hvisited

end Graph

end PrimeReasoner
