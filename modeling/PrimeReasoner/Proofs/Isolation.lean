import PrimeReasoner.Proofs.Collision
import PrimeReasoner.Proofs.Search.Renumbering

/-!
# Readers are isolated

Knowledge is a value, so nothing that is learned later gets into it.  The encoder, however, goes on growing, and
a question that is asked later may find other numbers for its concepts than it would have found before.  That
makes no difference to the answer.

**Two tables.**  If both have grown from the table that some knowledge fits, the goals with known concepts have
the same ways in both, and the same goals are stored and share a number in both, because numbers are the same
exactly if the facts permute each other (`Knowledge.Fits.renumbers`).

**Later answers.**  So whatever is done in the meantime, a question over the same knowledge gets the same answer
as before, with the same derivation or the same reason (`answers_isolated`).
-/

namespace PrimeReasoner

namespace Encoder

variable {encoder later : Encoder}

/-- A number of the table stands for the permutations of one fact in every later table. -/
lemma Sound.code_eq_code_iff (h : encoder.Sound) (hlater : later.Sound) (hgrows : encoder.Grows later)
    {fact goal : Fact} (hfact : encoder.Knows fact.concepts) (hgoal : later.Knows goal.concepts) :
    (encoder.code fact : Int) = later.code goal ↔ fact.Permutes goal := by
  rw [Nat.cast_inj, ← h.code_grows hlater hgrows hfact]
  exact hlater.code_eq_iff (hfact.grows hgrows) hgoal

lemma Sound.run_primeOf_of_ne_blank (h : encoder.Sound) {given : String} (hgiven : normalize given ≠ "") :
    ∃ prime later, (primeOf given).run.run encoder = (.ok prime, later) ∧ later.Sound := by
  have hasks := asks_primeOf given
  obtain ⟨prime, later, hrun⟩ := hasks.exists_ok h (by simpa using hgiven)
  have hlater := (hasks.grows h).1
  rw [hrun] at hlater
  exact ⟨prime, later, hrun, hlater⟩

/-- The first blank concept is to blame. -/
lemma Sound.run_encodeFact_of_blank (h : encoder.Sound) {fact : Fact} (hblank : ¬ fact.IsComplete) :
    ∃ later, (encodeFact fact).run.run encoder = (.error (.emptyConcept
      ((fact.concepts.find? fun concept => normalize concept = "").getD "")), later) := by
  rw [Fact.isComplete_iff] at hblank
  unfold encodeFact
  by_cases hsubject : normalize fact.subject = ""
  · refine ⟨encoder, ?_⟩
    simp only [run_run_bind, run_primeOf_of_blank hsubject]
    simp [Fact.concepts, hsubject]
  obtain ⟨_, first, hrun, hfirst⟩ := h.run_primeOf_of_ne_blank hsubject
  by_cases hpredicate : normalize fact.predicate = ""
  · refine ⟨first, ?_⟩
    simp only [run_run_bind, hrun, run_primeOf_of_blank hpredicate]
    simp [Fact.concepts, hsubject, hpredicate]
  obtain ⟨_, second, hrun', -⟩ := hfirst.run_primeOf_of_ne_blank hpredicate
  have hobject : normalize fact.object = "" := by simpa [hsubject, hpredicate] using hblank
  refine ⟨second, ?_⟩
  simp only [run_run_bind, hrun, hrun', run_primeOf_of_blank hobject]
  simp [Fact.concepts, hsubject, hpredicate, hobject]

end Encoder

/-! ## Two tables -/

namespace Knowledge

variable {knowledge : Knowledge} {encoder first second : Encoder}

lemma memberWay?_grows (h : encoder.Sound) (hfirst : first.Sound) (hgrows : encoder.Grows first)
    {rule : EncodedRule} (hreads : rule.Reads encoder) (goal : Fact) :
    memberWay? first goal rule = memberWay? encoder goal rule := by
  cases rule with
  | quantified quantifier v c p q x y =>
      obtain ⟨hc, hp, hq, -⟩ := hreads
      simp only [memberWay?, h.conceptOf_grows hfirst hgrows hc, h.conceptOf_grows hfirst hgrows hp,
        h.conceptOf_grows hfirst hgrows hq]
  | standard _ _ => rfl
  | unrecognised => rfl

lemma impliedWay?_grows (h : encoder.Sound) (hfirst : first.Sound) (hsecond : second.Sound)
    (hgrows : encoder.Grows first) (hgrows' : encoder.Grows second) {rule : EncodedRule}
    (hreads : rule.Reads encoder) {goal : Fact} (hgoal : first.Knows goal.concepts)
    (hgoal' : second.Knows goal.concepts) :
    impliedWay? second (second.code goal) rule = impliedWay? first (first.code goal) rule := by
  cases rule with
  | quantified _ _ _ _ _ _ _ => rfl
  | standard conditions conclusion =>
      obtain ⟨hconditions, fact, hfact, rfl⟩ := hreads
      have hsame : conditions.filterMap second.fact? = conditions.filterMap first.fact? := by
        refine List.filterMap_congr fun condition hcondition => ?_
        rw [h.fact?_grows hfirst hgrows (hconditions condition hcondition),
          h.fact?_grows hsecond hgrows' (hconditions condition hcondition)]
      simp only [impliedWay?, h.code_eq_code_iff hfirst hgrows hfact hgoal,
        h.code_eq_code_iff hsecond hgrows' hfact hgoal', hsame]
  | unrecognised => rfl

/-- **Renumbering.**  Read in two tables that have grown from the one it fits, knowledge makes graphs that differ
in the numbers only. -/
theorem Fits.renumbers (hfits : knowledge.Fits encoder) (hnumbered : knowledge.Numbered encoder)
    (h : encoder.Sound) (hfirst : first.Sound) (hsecond : second.Sound) (hgrows : encoder.Grows first)
    (hgrows' : encoder.Grows second) :
    (knowledge.graph first).Renumbers (knowledge.graph second) fun goal =>
      first.Knows goal.concepts ∧ second.Knows goal.concepts := by
  have hways : ∀ goal : Fact, first.Knows goal.concepts ∧ second.Knows goal.concepts →
      (knowledge.graph second).ways goal = (knowledge.graph first).ways goal := by
    rintro goal ⟨hgoal, hgoal'⟩
    simp only [graph]
    congr 1
    · refine List.filterMap_congr fun rule hrule => ?_
      rw [memberWay?_grows h hfirst hgrows (hfits.reads h hrule),
        memberWay?_grows h hsecond hgrows' (hfits.reads h hrule)]
    · congr 1
      exact List.filterMap_congr fun rule hrule =>
        impliedWay?_grows h hfirst hsecond hgrows hgrows' (hfits.reads h hrule) hgoal hgoal'
  refine ⟨?_, hways, ?_, ?_⟩
  · -- a premise is known in both tables, since the way to it is a way in both graphs
    intro goal hgoal way hway premise hpremise
    have hway' : way ∈ (knowledge.graph second).ways goal := by rwa [hways goal hgoal]
    exact ⟨(hfits.grows h hfirst hgrows).knows_premises hfirst hgoal.1 hway premise hpremise,
      (hfits.grows h hsecond hgrows').knows_premises hsecond hgoal.2 hway' premise hpremise⟩
  · rintro goal ⟨hgoal, hgoal'⟩
    have hiff := (hfits.grows h hfirst hgrows).holds_code_iff
      (hnumbered.grows hfits h hfirst hgrows) hfirst hgoal
    have hiff' := (hfits.grows h hsecond hgrows').holds_code_iff
      (hnumbered.grows hfits h hsecond hgrows') hsecond hgoal'
    exact Bool.eq_iff_iff.mpr (hiff'.trans hiff.symm)
  · rintro goal goal' ⟨hgoal, hgoal'⟩ ⟨hother, hother'⟩
    exact (hsecond.code_eq_iff hgoal' hother').trans (hfirst.code_eq_iff hgoal hother).symm

end Knowledge

/-! ## Later answers -/

lemma Graph.Renumbers.answer_eq {graph other : Graph} {domain : Fact → Prop}
    (h : graph.Renumbers other domain) {goal : Fact} (hgoal : domain goal) (limit : Int)
    (levels : ℕ) : other.answer limit levels goal = graph.answer limit levels goal := by
  have hstart : Walk.Renumbered graph other domain {} {} := ⟨rfl, rfl, rfl, by simp⟩
  obtain ⟨result, walk, walk', hfirst, hsecond, hwalk⟩ :=
    h.alike_search limit levels 0 [] hgoal hstart
  rw [answer, answer, hfirst, hsecond]
  cases result <;> simp [hwalk.effort]

namespace Engine

/-- The goals answered one after the other, each with the engine and the encoder that the one before has left
behind. -/
def deduceAll (engine : Engine) (encoder : Encoder) (knowledge : Knowledge) :
    List Fact → List (Except DeductionError Verdict)
  | [] => []
  | goal :: goals =>
    let (result, engine, encoder) := engine.deduce encoder knowledge goal
    result :: engine.deduceAll encoder knowledge goals

lemma depthBound_congr {engine engine' : Engine} (hmachine : engine'.machine = engine.machine)
    (hdepth : engine'.maxDepth = engine.maxDepth) : engine'.depthBound = engine.depthBound := by
  simp only [depthBound, depthLimit, hmachine, hdepth]

lemma machine_deduce (engine : Engine) (encoder : Encoder) (knowledge : Knowledge) (goal : Fact) :
    (engine.deduce encoder knowledge goal).2.1.machine = engine.machine := by
  unfold deduce
  split <;> split <;> rfl

lemma maxDepth_deduce (engine : Engine) (encoder : Encoder) (knowledge : Knowledge) (goal : Fact) :
    (engine.deduce encoder knowledge goal).2.1.maxDepth = engine.maxDepth := by
  unfold deduce
  split <;> split <;> rfl

variable {knowledge : Knowledge} {encoder first second : Encoder} {engine engine' : Engine}

/-- **The answer does not depend on how the table has grown**, nor on what the engine has done. -/
theorem deduce_eq_of_grows (hfits : knowledge.Fits encoder) (hnumbered : knowledge.Numbered encoder)
    (h : encoder.Sound) (hfirst : first.Sound) (hsecond : second.Sound) (hgrows : encoder.Grows first)
    (hgrows' : encoder.Grows second) (hmachine : engine'.machine = engine.machine)
    (hdepth : engine'.maxDepth = engine.maxDepth) (goal : Fact) :
    (engine'.deduce second knowledge goal).1 = (engine.deduce first knowledge goal).1 := by
  by_cases hcomplete : goal.IsComplete
  · obtain ⟨hready, hready', hknows, hrun⟩ := hfirst.ready hcomplete
    obtain ⟨hlast, hlast', hknows', hrun'⟩ := hsecond.ready hcomplete
    cases hbound : engine.depthBound with
    | error error =>
        rw [deduce, deduce, depthBound_congr hmachine hdepth, hbound, hrun, hrun']
    | ok limit =>
        obtain ⟨_, -, hdeduce⟩ := (hfits.grows h hfirst hgrows).deduce hfirst hcomplete hbound
        obtain ⟨_, -, hdeduce'⟩ := (hfits.grows h hsecond hgrows').deduce hsecond hcomplete
          ((depthBound_congr hmachine hdepth).trans hbound)
        have hrenumbers := hfits.renumbers hnumbered h hready hlast (hgrows.trans hready')
          (hgrows'.trans hlast')
        rw [hdeduce, hdeduce', hmachine, hrenumbers.answer_eq ⟨hknows, hknows'⟩]
  · obtain ⟨_, hrun⟩ := hfirst.run_encodeFact_of_blank hcomplete
    obtain ⟨_, hrun'⟩ := hsecond.run_encodeFact_of_blank hcomplete
    rw [deduce_of_error hrun, deduce_of_error hrun']

lemma deduceAll_eq_map (hfits : knowledge.Fits encoder) (hnumbered : knowledge.Numbered encoder)
    (h : encoder.Sound) (hfirst : first.Sound) (hsecond : second.Sound) (hgrows : encoder.Grows first)
    (hgrows' : encoder.Grows second) (hmachine : engine'.machine = engine.machine)
    (hdepth : engine'.maxDepth = engine.maxDepth) (goals : List Fact) :
    engine'.deduceAll second knowledge goals =
      goals.map fun goal => (engine.deduce first knowledge goal).1 := by
  -- a question leaves a larger table and the same machine and depth behind, which is all that the next one needs
  induction goals generalizing second engine' with
  | nil => rfl
  | cons goal goals ih =>
      obtain ⟨hlater, subgoals, hconcepts⟩ := hsecond.deduce engine' knowledge goal
      have hlater' : second.Grows (engine'.deduce second knowledge goal).2.2 :=
        hsecond.grows hlater (hconcepts ▸ prefix_requestAll _ _)
      have hanswer := deduce_eq_of_grows hfits hnumbered h hfirst hsecond hgrows hgrows' hmachine hdepth goal
      have hmachine' := (machine_deduce engine' second knowledge goal).trans hmachine
      have hdepth' := (maxDepth_deduce engine' second knowledge goal).trans hdepth
      rw [deduceAll, List.map_cons, ← hanswer, ← ih hlater (hgrows'.trans hlater') hmachine' hdepth']

end Engine

/-- **Readers are isolated.**  Take the knowledge of a store in any state, and let anything be done to the store
and its encoder: facts and rules are added, concepts, facts and rules encoded, numbers read, other questions
answered over this knowledge or another, with or without failures.  A question over the knowledge that was taken
then gets the very answer that it would have got at once on the same machine, and so does each of several questions
asked one after the other, in whatever order. -/
theorem answers_isolated {store : Store} (hstore : store.IsReachable) (operations : List Store.Operation)
    {engine engine' : Engine} (hmachine : engine'.machine = engine.machine)
    (hdepth : engine'.maxDepth = engine.maxDepth) :
    (∀ goal, (engine'.deduce (store.performAll operations).encoder store.knowledge goal).1 =
      (engine.deduce store.encoder store.knowledge goal).1) ∧
    (∀ goals, engine'.deduceAll (store.performAll operations).encoder store.knowledge goals =
      goals.map fun goal => (engine.deduce store.encoder store.knowledge goal).1) := by
  have h := hstore.sound
  obtain ⟨hlater, hgrows⟩ := h.performAll operations
  have hrefl := Encoder.Grows.refl store.encoder
  constructor
  · exact Engine.deduce_eq_of_grows h.fits hstore.numbered h.encoder h.encoder hlater.encoder hrefl
      hgrows.encoder hmachine hdepth
  · exact Engine.deduceAll_eq_map h.fits hstore.numbered h.encoder h.encoder hlater.encoder hrefl
      hgrows.encoder hmachine hdepth

/-- A store with a chain of two links. -/
def linkStore : Store := (Store.fresh 0 []).performAll
  [.addFact ⟨"a", "is", "b"⟩, .addFact ⟨"b", "is", "c"⟩]

/-- What is done afterwards: more is learned, a call fails, and a question with new concepts is answered over
other knowledge. -/
def linkUses : List Store.Operation :=
  [.addFact ⟨"c", "is", "e"⟩, .call (.primeOf " "), .call (.deduce { machine := .usual } {} ⟨"f", "is", "d"⟩)]

/-- An engine that has been at work before. -/
def usedEngine : Engine := { machine := .usual, statistics := { deductions := 2, successes := 1 } }

theorem same_answers_after_uses :
    (usedEngine.deduce (linkStore.performAll linkUses).encoder linkStore.knowledge ⟨"a", "is", "e"⟩).1 =
      (({ machine := .usual } : Engine).deduce linkStore.encoder linkStore.knowledge ⟨"a", "is", "e"⟩).1 ∧
    (usedEngine.deduceAll (linkStore.performAll linkUses).encoder linkStore.knowledge
      [⟨"a", "is", "d"⟩, ⟨"a", "is", "c"⟩]).map (fun result => result.toOption.map Verdict.holds) =
      [some false, some true] := by
  have hstore : linkStore.IsReachable := ⟨0, [], _, rfl⟩
  have hmachine : usedEngine.machine = ({ machine := .usual } : Engine).machine := rfl
  have hdepth : usedEngine.maxDepth = ({ machine := .usual } : Engine).maxDepth := rfl
  have hbefore : [(⟨"a", "is", "d"⟩ : Fact), ⟨"a", "is", "c"⟩].map (fun goal =>
      (({ machine := .usual } : Engine).deduce linkStore.encoder linkStore.knowledge
        goal).1.toOption.map Verdict.holds) = [some false, some true] := by decide +kernel
  obtain ⟨hone, hall⟩ := answers_isolated hstore linkUses hmachine hdepth
  refine ⟨hone _, ?_⟩
  rw [hall, List.map_map, Function.comp_def, hbefore]

end PrimeReasoner
