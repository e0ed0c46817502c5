import Mathlib.Data.List.DropRight
import PrimeReasoner.Proofs.Certificate
import PrimeReasoner.Proofs.Isolation
import PrimeReasoner.Proofs.Reachability
import PrimeReasoner.Proofs.Search.Fates
import PrimeReasoner.Proofs.Session
import PrimeReasoner.Proofs.Trail

/-!
# The account of an engine is exact

An engine answers goals over any stores, one after the other, and is reset now and then.  What it reports in the end
is an account of the calls that returned since the last reset, and of nothing else.

**Sums.**  `Statistics.total` adds up answers, each with the work of its search; the depth is the largest one.  One
call adds one answer if it returns, and leaves the account alone if it fails (`Engine.deduce_answer?`).  A run is then
an induction from its end (`Engine.statistics_useAll`).

**One call.**  The counters of a search say how many goals it has decided and how many phrases it has visited
(`Trail.IsExact`).  They are those of its meetings (`Trail.Records`), so this is read off the list: the fates are
decided in order, and no goal but the question lies more than one level below the limit.
-/

namespace PrimeReasoner

/-! ## Sums -/

namespace Statistics

/-- The account of several answers, each with the work of its search. -/
def total (answers : List (Verdict × Effort)) : Statistics where
  deductions := answers.length
  successes := answers.countP fun answer => answer.1.holds
  effort :=
    { expanded := (answers.map fun answer => answer.2.expanded).sum
      cycles := (answers.map fun answer => answer.2.cycles).sum
      cutoffs := (answers.map fun answer => answer.2.cutoffs).sum
      deepest := (answers.map fun answer => answer.2.deepest).foldl max 0 }

/-- One more answer is one more entry. -/
lemma total_concat (answers : List (Verdict × Effort)) (answer : Verdict × Effort) :
    total (answers ++ [answer]) = (total answers).record answer.2 answer.1 := by
  rcases answer with ⟨verdict, effort⟩
  cases hholds : verdict.holds <;>
    simp [total, record, Effort.merge, List.countP_append, hholds]

end Statistics

/-- The answer to a goal with the work of the search for it, unless the search fails.  A search that has used up its
levels counts as one that was cut off. -/
def Store.answer? (store : Store) (limit : Int) (levels : ℕ) (goal : Fact) : Option (Verdict × Effort) :=
  match store.search limit levels goal with
  | (.ok verdict, trail) => some (verdict, trail.effort)
  | (.error .outOfLevels, trail) =>
    some (.refused .outOfLevels, { trail.effort with cutoffs := trail.effort.cutoffs + 1 })
  | (.error (.encoding _), _) => none

namespace Engine

/-- **What a call adds to the account**: its answer if it returns, and nothing if it fails. -/
lemma deduce_answer? {engine : Engine} {limit : Int} (hlimit : engine.depthBound = .ok limit) (store : Store)
    (goal : Fact) :
    let result := engine.deduce store.encoder store.knowledge goal
    (∀ answer, store.answer? limit engine.machine.levels goal = some answer →
      result.1 = .ok answer.1 ∧ result.2.1 = engine.after answer) ∧
    (store.answer? limit engine.machine.levels goal = none →
      (∃ error, result.1 = .error error) ∧ result.2.1 = engine) := by
  unfold Store.answer? Store.search deduce
  rw [hlimit]
  dsimp only
  rcases (decideGoal store.knowledge limit engine.machine.levels 0 goal).run.run { encoder := store.encoder } with
    ⟨(error | _) | verdict, trail⟩
  · exact ⟨by simp, fun _ => ⟨⟨.encoding error, rfl⟩, rfl⟩⟩
  · refine ⟨fun answer hanswer => ?_, by simp⟩
    obtain rfl := Option.some.inj hanswer
    exact ⟨rfl, rfl⟩
  · refine ⟨fun answer hanswer => ?_, by simp⟩
    obtain rfl := Option.some.inj hanswer
    exact ⟨rfl, rfl⟩

/-- One use of an engine. -/
inductive Use where
  /-- A goal is to be answered over a store. -/
  | call (store : Store) (goal : Fact)
  /-- The account starts anew. -/
  | reset

namespace Use

/-- Is a goal to be answered? -/
def isCall : Use → Bool
  | .call .. => true
  | .reset => false

/-- The answer of a call, if it returns. -/
def answer? (limit : Int) (levels : ℕ) : Use → Option (Verdict × Effort)
  | .call store goal => store.answer? limit levels goal
  | .reset => none

end Use

/-- The engine after a use, whether or not it fails. -/
def use (engine : Engine) : Use → Engine
  | .call store goal => (engine.deduce store.encoder store.knowledge goal).2.1
  | .reset => engine.resetStatistics

/-- The engine after several uses, in order. -/
def useAll (engine : Engine) (uses : List Use) : Engine := uses.foldl use engine

/-- The answers of the calls that returned since the last reset, in order. -/
def answersSince (limit : Int) (levels : ℕ) (uses : List Use) : List (Verdict × Effort) :=
  (uses.rtakeWhile Use.isCall).filterMap (Use.answer? limit levels)

lemma answersSince_concat (limit : Int) (levels : ℕ) (uses : List Use) (use : Use) :
    answersSince limit levels (uses ++ [use]) =
      if use.isCall then answersSince limit levels uses ++ (use.answer? limit levels).toList else [] := by
  rw [answersSince, List.rtakeWhile_concat]
  split_ifs
  · rw [List.filterMap_append, answersSince]
    cases hanswer : use.answer? limit levels <;> simp [hanswer]
  · rfl

lemma machine_useAll (engine : Engine) (uses : List Use) : (engine.useAll uses).machine = engine.machine := by
  induction uses generalizing engine with
  | nil => rfl
  | cons use uses ih =>
      rw [useAll, List.foldl_cons, ← useAll, ih]
      cases use with
      | call store goal => exact machine_deduce engine store.encoder store.knowledge goal
      | reset => rfl

lemma maxDepth_useAll (engine : Engine) (uses : List Use) : (engine.useAll uses).maxDepth = engine.maxDepth := by
  induction uses generalizing engine with
  | nil => rfl
  | cons use uses ih =>
      rw [useAll, List.foldl_cons, ← useAll, ih]
      cases use with
      | call store goal => exact maxDepth_deduce engine store.encoder store.knowledge goal
      | reset => rfl

/-- **A run of an engine.**  The induction is from the end of the run, where one more use adds an answer, adds
nothing, or starts the account anew. -/
theorem statistics_useAll {engine : Engine} {limit : Int} (hlimit : engine.depthBound = .ok limit)
    (hstart : engine.statistics = {}) (uses : List Use) :
    (engine.useAll uses).statistics = .total (answersSince limit engine.machine.levels uses) := by
  induction uses using List.reverseRecOn with
  | nil => exact hstart
  | append_singleton uses use ih =>
      rw [answersSince_concat, useAll, List.foldl_append, List.foldl_cons, List.foldl_nil, ← useAll]
      cases use with
      | reset => rfl
      | call store goal =>
          have hmachine := machine_useAll engine uses
          have hbound : (engine.useAll uses).depthBound = .ok limit :=
            (depthBound_congr hmachine (maxDepth_useAll engine uses)).trans hlimit
          rw [Use.isCall, if_pos rfl, Use.answer?, Engine.use]
          obtain ⟨hreturns, hfails⟩ := deduce_answer? hbound store goal
          rw [hmachine] at hreturns hfails
          cases hanswer : store.answer? limit engine.machine.levels goal with
          | none => rw [(hfails hanswer).2, ih, Option.toList_none, List.append_nil]
          | some answer =>
              rw [(hreturns answer hanswer).2, Option.toList_some, Statistics.total_concat, ← ih]
              rfl

end Engine

/-! ## One call -/

/-- The largest integer that is not above a number, if there is one. -/
def Number.floor? : Number → Option Int
  | .whole m => some m
  | .double x => x.floor?

lemma Engine.deepestWithin_eq {levels : ℕ} {limit : Number} {whole : Int} (h : limit.floor? = some whole) :
    deepestWithin levels limit = whole := by
  rcases limit with m | (_ | ⟨_ | _⟩ | _)
  · exact Option.some.inj h
  · simp only [Number.floor?] at h
    rw [deepestWithin, h, Option.getD_some]
    simp
  all_goals simp [Number.floor?, Double.floor?] at h

lemma Engine.deepestWithin_neg {levels : ℕ} {limit : Number} (h : limit.isBelow 0 = true) :
    deepestWithin levels limit < 0 := by
  rcases limit with m | (_ | ⟨_ | _⟩ | _)
  · simpa [Number.isBelow, deepestWithin] using h
  · simpa [Number.isBelow, Double.isBelow, deepestWithin, Double.floor?] using h
  · simp [Number.isBelow, Double.isBelow] at h
  · exact Int.negSucc_lt_zero 0
  · simp [Number.isBelow, Double.isBelow] at h

/-- **What the counters of a search say**, if the depth limit is the given number. -/
structure Trail.IsExact (trail : Trail) (limit : Number) (meetings : List Meeting) : Prop where
  /-- Each counter counts the goals with one fate. -/
  records : trail.Records meetings
  nodup : trail.visited.Nodup
  /-- The phrases visited are those of all goals decided. -/
  mem_visited : ∀ phrase, phrase ∈ trail.visited ↔ ∃ meeting ∈ meetings, meeting.goal.text = phrase
  visited : trail.effort.expanded + trail.effort.cutoffs = trail.visited.length
  decided : trail.effort.expanded + trail.effort.cutoffs + trail.effort.cycles = meetings.length
  deepest : ∀ whole, limit.floor? = some whole → (trail.effort.deepest : Int) ≤ max 0 (whole + 1)
  /-- This is for a limit below all integers. -/
  shallow : limit.isBelow 0 = true → trail.effort.deepest = 0

lemma eq_some_of_levelsLeft {α : Type} {result : Option α} {a : α} (h : levelsLeft result = .ok a) :
    result = some a := by
  cases result with
  | none => simp [levelsLeft] at h
  | some b => exact congrArg some (Except.ok.inj h)

namespace Store

variable {store : Store} {goal : Fact} {levels : ℕ}

/-- No goal is more than one level below the limit, unless it is the question. -/
lemma deepest_meetings_le (store : Store) (limit : Int) (levels : ℕ) (goal : Fact) :
    ((account (store.meetings limit levels goal)).deepest : Int) ≤ max 0 (limit + 1) := by
  have hle : (account (store.meetings limit levels goal)).deepest ≤ (max 0 (limit + 1)).toNat := by
    refine deepest_account_le fun meeting hmeeting => ?_
    rcases Graph.depth_of_mem_meetings hmeeting with heq | hdepth <;> omega
  omega

/-- **The trail of a search is exact.** -/
lemma Sound.isExact_search (h : store.Sound) (hcomplete : goal.IsComplete) (limit : Number) (hlevels : 0 < levels) :
    let bound := Engine.deepestWithin levels limit
    (store.search bound levels goal).2.IsExact limit (store.meetings bound levels goal) := by
  intro bound
  obtain ⟨later, -, hrecords, hrun⟩ := h.search hcomplete bound hlevels
  have hwalk := store.walk_search bound levels goal
  have hfated : (store.knowledge.graph (store.encoder.ready goal)).Fated bound {}
      (store.meetings bound levels goal) := Graph.fated_meetings ..
  have hdeepest := store.deepest_meetings_le bound levels goal
  rw [hrun]
  refine ⟨hrecords, ?_, fun phrase => ?_, ?_, ?_, fun whole hwhole => ?_, fun hbelow => ?_⟩
  · have hnodup := hfated.nodup List.nodup_nil
    rw [← hwalk] at hnodup
    exact hnodup
  · have hmem := hfated.mem_visited phrase
    rw [← hwalk] at hmem
    exact hmem.trans (or_iff_left List.not_mem_nil)
  · rw [hrecords.effort, (counts_account _).1, hrecords.visited, List.length_reverse, List.length_map]
  · rw [hrecords.effort, (counts_account _).2]
  · have hbound : bound = whole := Engine.deepestWithin_eq hwhole
    rw [hrecords.effort, ← hbound]
    exact hdeepest
  · have hneg : bound < 0 := Engine.deepestWithin_neg hbelow
    rw [hrecords.effort]
    omega

/-- A search for a complete goal uses up its levels or comes to a verdict. -/
lemma Sound.search_cases (h : store.Sound) (hcomplete : goal.IsComplete) (limit : Int) (hlevels : 0 < levels) :
    (store.search limit levels goal).1 = .error .outOfLevels ∨
      ∃ verdict trail, store.search limit levels goal = (.ok verdict, trail) := by
  obtain ⟨later, -, -, hrun⟩ := h.search hcomplete limit hlevels
  rw [hrun]
  cases ((store.knowledge.graph (store.encoder.ready goal)).search limit levels 0 [] goal {}).1 with
  | none => exact .inl rfl
  | some verdict => exact .inr ⟨verdict, _, rfl⟩

/-- A yes comes from a goal that was looked into. -/
lemma Sound.expanded_pos_of_holds (h : store.Sound) (hcomplete : goal.IsComplete) {limit : Int} (hlevels : 0 < levels)
    {verdict : Verdict} {trail : Trail} (hrun : store.search limit levels goal = (.ok verdict, trail))
    (hholds : verdict.holds = true) : 1 ≤ trail.effort.expanded := by
  obtain ⟨later, -, hrecords, hsearch⟩ := h.search hcomplete limit hlevels
  obtain ⟨hresult, rfl⟩ := Prod.mk.inj (hsearch.symm.trans hrun)
  rw [hrecords.effort]
  cases verdict with
  | refused reason => simp [Verdict.holds] at hholds
  | proved derivation => exact Graph.expanded_pos_of_proved (eq_some_of_levelsLeft hresult)

end Store

/-- **The account of an engine is exact.**  Let the configured depth be a number, and let the engine be used in any
way from the beginning.  The account is the sum of the answers since the last reset.  Now let any engine with this
depth, on the same machine, be called over a store in any state.  If the call fails, then it adds no answer and the
engine is as before.  Otherwise, unless the levels are used up, it adds its verdict and the counters of its search.
What was looked into or cut off are the phrases visited, each counted once; together with what was met again these are
all the goals decided; none of them lies more than one level below the limit, or else it is the question; and a yes
needs a goal that was looked into. -/
theorem account_exact {machine : Machine} {maxDepth : Setting} {limit : Number}
    (hlimit : ({ machine, maxDepth } : Engine).depthLimit.number? = some limit) :
    let levels := machine.levels
    let bound := Engine.deepestWithin levels limit
    (∀ uses : List Engine.Use,
      (({ machine, maxDepth } : Engine).useAll uses).statistics = .total (Engine.answersSince bound levels uses)) ∧
    ∀ engine : Engine, engine.machine = machine → engine.maxDepth = maxDepth →
      ∀ store : Store, store.IsReachable → ∀ goal : Fact,
      let result := engine.deduce store.encoder store.knowledge goal
      (¬ goal.IsComplete ∧ (∃ error, result.1 = .error error) ∧ result.2.1 = engine ∧
        store.answer? bound levels goal = none) ∨
      (goal.IsComplete ∧ ((store.search bound levels goal).1 = .error .outOfLevels ∨
        ∃ verdict trail, result.1 = .ok verdict ∧
          store.search bound levels goal = (.ok verdict, trail) ∧
          store.answer? bound levels goal = some (verdict, trail.effort) ∧
          trail.IsExact limit (store.meetings bound levels goal) ∧
          (verdict.holds = true → 1 ≤ trail.effort.expanded))) := by
  intro levels bound
  have hbound : ({ machine, maxDepth } : Engine).depthBound = .ok bound := Engine.depthBound_eq_ok hlimit
  refine ⟨fun uses => Engine.statistics_useAll hbound rfl uses, fun engine hmachine hdepth store hstore goal => ?_⟩
  have h := hstore.sound
  have hengine : engine.depthBound = .ok bound := (Engine.depthBound_congr hmachine hdepth).trans hbound
  have hlevels : 0 < levels := Nat.zero_lt_of_lt machine.roomy
  obtain ⟨hreturns, hfails⟩ := Engine.deduce_answer? hengine store goal
  rw [hmachine] at hreturns hfails
  by_cases hcomplete : goal.IsComplete
  · refine .inr ⟨hcomplete, ?_⟩
    rcases h.search_cases hcomplete bound hlevels with hout | ⟨verdict, trail, hrun⟩
    · exact .inl hout
    · have hanswer : store.answer? bound levels goal = some (verdict, trail.effort) := by rw [Store.answer?, hrun]
      obtain ⟨hok, -⟩ := hreturns _ hanswer
      have hexact : (store.search bound levels goal).2.IsExact limit
          (store.meetings bound levels goal) := h.isExact_search hcomplete limit hlevels
      rw [hrun] at hexact
      exact .inr ⟨verdict, trail, hok, hrun, hanswer, hexact,
        h.expanded_pos_of_holds hcomplete hlevels hrun⟩
  · left
    cases hanswer : store.answer? bound levels goal with
    | none =>
        obtain ⟨herror, hsame⟩ := hfails hanswer
        exact ⟨hcomplete, herror, hsame, rfl⟩
    | some answer =>
        obtain ⟨error, herror⟩ := (h.deduce_error_iff hengine goal).mpr hcomplete
        rw [(hreturns answer hanswer).1] at herror
        simp at herror

/-- A limit between the question and the goals that it leads to. -/
def shallowLimit : Double := .finite false 1 (-1)

/-- A yes before a reset, and then a no, a failure and a yes. -/
def ringUses : List Engine.Use :=
  [.call ringStore ⟨"a", "is", "b"⟩, .reset, .call ringStore ⟨"a", "is", "c"⟩, .call ringStore ⟨"a", "", "c"⟩,
    .call ringStore ⟨"a", "is", "b"⟩]

theorem account_of_ring_uses :
    (({ machine := .usual, maxDepth := .scalar (.float shallowLimit) } : Engine).useAll ringUses).statistics =
      { deductions := 2, successes := 1, effort := { expanded := 2, cutoffs := 2, deepest := 1 } } ∧
    ringStore.answer? 0 Machine.usual.levels ⟨"a", "", "c"⟩ = none ∧
    ∃ trail, (ringStore.search 0 Machine.usual.levels ⟨"a", "is", "c"⟩).2 = trail ∧
      trail.IsExact (.double shallowLimit) (ringStore.meetings 0 Machine.usual.levels ⟨"a", "is", "c"⟩) ∧
      trail.visited.length = 3 ∧ trail.effort.deepest = 1 := by
  obtain ⟨hbound, hanswers, hsearch, hvisited, hdeepest, hblank, hcomplete⟩ :
      Engine.deepestWithin Machine.usual.levels (.double shallowLimit) = 0 ∧
      Statistics.total (Engine.answersSince 0 Machine.usual.levels ringUses) =
        { deductions := 2, successes := 1, effort := { expanded := 2, cutoffs := 2, deepest := 1 } } ∧
      (ringStore.search 0 Machine.usual.levels ⟨"a", "is", "c"⟩).1.toOption.map Verdict.holds = some false ∧
      (ringStore.search 0 Machine.usual.levels ⟨"a", "is", "c"⟩).2.visited.length = 3 ∧
      (ringStore.search 0 Machine.usual.levels ⟨"a", "is", "c"⟩).2.effort.deepest = 1 ∧
      (¬ ∀ concept ∈ (⟨"a", "", "c"⟩ : Fact).concepts, normalize concept ≠ "") ∧
      ∀ concept ∈ (⟨"a", "is", "c"⟩ : Fact).concepts, normalize concept ≠ "" := by
    decide +kernel
  have hlimit : ({ machine := .usual, maxDepth := .scalar (.float shallowLimit) } : Engine).depthLimit.number? =
      some (.double shallowLimit) := rfl
  have hstore : ringStore.IsReachable := ⟨0, [], _, rfl⟩
  obtain ⟨hsum, hcalls⟩ := account_exact hlimit
  rw [hbound] at hsum hcalls
  have hcalls := hcalls { machine := .usual, maxDepth := .scalar (.float shallowLimit) } rfl rfl ringStore hstore
  refine ⟨(hsum ringUses).trans hanswers, ?_, _, rfl, ?_, hvisited, hdeepest⟩
  · rcases hcalls ⟨"a", "", "c"⟩ with ⟨-, -, -, hnone⟩ | ⟨hfull, -⟩
    · exact hnone
    · exact absurd hfull hblank
  · rcases hcalls ⟨"a", "is", "c"⟩ with ⟨hempty, -⟩ | ⟨-, hout | ⟨verdict, trail, -, hrun, -, hexact, -⟩⟩
    · exact absurd hcomplete hempty
    · simp [hout, Except.toOption] at hsearch
    · rw [hrun]
      exact hexact

end PrimeReasoner
