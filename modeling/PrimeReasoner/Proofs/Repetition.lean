import PrimeReasoner.Proofs.Isolation
import PrimeReasoner.Proofs.Search.Repetition

/-!
# Learning the same again

Facts and rules are kept as often as they are learned.  If something is learned that is stored already, the knowledge
grows by copies of what it holds (`Knowledge.Repeated`).  So the ways to a goal are the same as before, some of them
more than once, and what comes again makes no difference to a verdict, nor to the derivation behind a yes
(`same_verdict_after_repetition`).

**What may change.**  The search comes to some goals once more, so the account may show more circles, and with more
goals met again, a question that could not be answered may be called circular.
-/

namespace PrimeReasoner

namespace Knowledge

variable {knowledge later : Knowledge} {encoder : Encoder}

/-- The later knowledge has copies of what was there before, and nothing else that is new. -/
structure Repeated (knowledge later : Knowledge) : Prop where
  facts : knowledge.facts <+: later.facts
  rules : knowledge.rules <+: later.rules
  facts_subset : later.facts ⊆ knowledge.facts
  rules_subset : later.rules ⊆ knowledge.rules

lemma Repeated.refl (knowledge : Knowledge) : knowledge.Repeated knowledge :=
  ⟨List.prefix_rfl, List.prefix_rfl, List.Subset.refl _, List.Subset.refl _⟩

lemma Repeated.trans {last : Knowledge} (h : knowledge.Repeated later) (h' : later.Repeated last) :
    knowledge.Repeated last :=
  ⟨h.facts.trans h'.facts, h.rules.trans h'.rules, List.Subset.trans h'.facts_subset h.facts_subset,
    List.Subset.trans h'.rules_subset h.rules_subset⟩

/-- Every way has a premise; an implication has conditions, and they can be read. -/
lemma Fits.premises_ne_nil (hfits : knowledge.Fits encoder) (h : encoder.Sound) {goal : Fact} {way : Way}
    (hway : way ∈ (knowledge.graph encoder).ways goal) : way.premises goal ≠ [] := by
  rcases mem_ways.mp hway with ⟨_, _, _, _, _, _, _, -, -, -, rfl⟩ | ⟨conditions, hrule, rfl⟩ |
    ⟨-, _, -, -, -, rfl⟩
  · exact List.cons_ne_nil _ _
  · obtain ⟨rule, hknows, hcode⟩ := hfits.rules _ hrule
    cases rule with
    | quantified _ _ _ => simp [Encoder.ruleCode?, Option.bind_eq_some_iff] at hcode
    | standard condition further conclusion =>
        rw [h.ruleCode?_standard hknows] at hcode
        obtain ⟨rfl, -⟩ := EncodedRule.standard.inj (Option.some.inj hcode)
        obtain ⟨fact, hfact, -⟩ := h.fact?_of_numbers
          ⟨condition, fun given hgiven => hknows given (by simp [Rule.concepts, hgiven]), rfl⟩
        simp [Way.premises, hfact]
  · exact List.cons_ne_nil _ _

/-- **Copies make ways that come again**, and nothing else. -/
theorem Repeated.repeats (hrepeated : knowledge.Repeated later) (hfits : knowledge.Fits encoder)
    (hfits' : later.Fits encoder) (hnumbered : knowledge.Numbered encoder)
    (hnumbered' : later.Numbered encoder) (h : encoder.Sound) :
    (knowledge.graph encoder).Repeats (later.graph encoder) fun goal => encoder.Knows goal.concepts := by
  refine ⟨fun goal hgoal way hway => hfits.knows_premises h hgoal hway, fun _ _ => rfl, ?_, ?_,
    fun goal _ way hway => hfits.premises_ne_nil h hway⟩
  · intro goal hgoal
    have hiff := hfits.holds_code_iff hnumbered h hgoal
    have hiff' := hfits'.holds_code_iff hnumbered' h hgoal
    refine Bool.eq_iff_iff.mpr (hiff'.trans (Iff.trans ?_ hiff.symm))
    exact ⟨fun ⟨stored, hstored, hperm⟩ => ⟨stored, hrepeated.facts_subset hstored, hperm⟩,
      fun ⟨stored, hstored, hperm⟩ => ⟨stored, hrepeated.facts.subset hstored, hperm⟩⟩
  · intro goal _
    have hlinks : knowledge.links goal <+: later.links goal ∧ later.links goal ⊆ knowledge.links goal := by
      unfold links
      split_ifs
      · exact ⟨hrepeated.facts, hrepeated.facts_subset⟩
      · exact ⟨List.prefix_rfl, List.Subset.refl _⟩
    exact (Repeats.filterMap _ hrepeated.rules hrepeated.rules_subset).append
      ((Repeats.filterMap _ hrepeated.rules hrepeated.rules_subset).append
        (Repeats.filterMap _ hlinks.1 hlinks.2))

end Knowledge

namespace Store

/-- The operation adds a fact that is stored, or a rule of which the encoding is stored, or nothing at all. -/
def Repeats (store : Store) : Operation → Prop
  | .addFact fact => fact ∈ store.knowledge.facts
  | .addRule proposal => ∃ encoded ∈ store.knowledge.rules, (store.addRule proposal).1 = .ok encoded
  | .call _ => True

/-- Each of the operations repeats what is known when its turn comes. -/
def RepeatsAll : Store → List Operation → Prop
  | _, [] => True
  | store, operation :: operations =>
    store.Repeats operation ∧ (store.perform operation).RepeatsAll operations

instance : ∀ (store : Store) (operation : Operation), Decidable (store.Repeats operation)
  | store, .addFact fact => inferInstanceAs (Decidable (fact ∈ store.knowledge.facts))
  | store, .addRule proposal => inferInstanceAs
    (Decidable (∃ encoded ∈ store.knowledge.rules, (store.addRule proposal).1 = .ok encoded))
  | _, .call _ => inferInstanceAs (Decidable True)

instance decidableRepeatsAll : ∀ (store : Store) (operations : List Operation),
    Decidable (store.RepeatsAll operations)
  | _, [] => inferInstanceAs (Decidable True)
  | store, operation :: operations =>
    have := decidableRepeatsAll (store.perform operation) operations
    inferInstanceAs (Decidable (store.Repeats operation ∧ (store.perform operation).RepeatsAll operations))

variable {store : Store}

lemma Repeats.repeated {operation : Operation} (h : store.Repeats operation) :
    store.knowledge.Repeated (store.perform operation).knowledge := by
  cases operation with
  | addFact fact =>
      simp only [perform, addFact]
      rcases (Encoder.encodeFact fact).run.run store.encoder with ⟨error | n, later⟩
      · exact .refl _
      · exact ⟨List.prefix_append _ _, List.prefix_rfl,
          List.append_subset.mpr ⟨List.Subset.refl _, List.cons_subset.mpr ⟨h, List.nil_subset _⟩⟩,
          List.Subset.refl _⟩
  | addRule proposal =>
      obtain ⟨encoded, hencoded, hadd⟩ := h
      simp only [addRule] at hadd
      simp only [perform, addRule]
      rcases hrun : (Encoder.encodeProposal proposal).run.run store.encoder with ⟨error | rule, later⟩
      all_goals rw [hrun] at hadd
      · simp at hadd
      · obtain rfl := Except.ok.inj hadd
        exact ⟨List.prefix_rfl, List.prefix_append _ _, List.Subset.refl _,
          List.append_subset.mpr ⟨List.Subset.refl _, List.cons_subset.mpr ⟨hencoded, List.nil_subset _⟩⟩⟩
  | call call => exact .refl _

/-- **A run of repetitions**, by induction from the first one. -/
lemma RepeatsAll.repeated {operations : List Operation} (h : store.RepeatsAll operations) :
    store.knowledge.Repeated (store.performAll operations).knowledge := by
  induction operations generalizing store with
  | nil => exact .refl _
  | cons operation operations ih => exact h.1.repeated.trans (ih h.2)

/-- **A deduction after repetitions** is an echo of the one before them. -/
lemma IsReachable.echoes_deduce (hstore : store.IsReachable) {operations : List Operation}
    (hrepeats : store.RepeatsAll operations) {engine engine' : Engine}
    (hmachine : engine'.machine = engine.machine) {limit : Int} (hlimit : engine.depthBound = .ok limit)
    (hlimit' : engine'.depthBound = .ok limit) {goal : Fact} (hcomplete : goal.IsComplete) :
    ∃ verdict verdict' effort circles, verdict.Echoes verdict' ∧
      (∃ encoder, engine.deduce store.encoder store.knowledge goal =
        (.ok verdict, engine.after (verdict, effort), encoder)) ∧
      ∃ encoder, engine'.deduce (store.performAll operations).encoder
        (store.performAll operations).knowledge goal =
        (.ok verdict', engine'.after (verdict', effort.withCircles circles), encoder) := by
  have h := hstore.sound
  obtain ⟨hlater, hgrows⟩ := h.performAll operations
  have hnumbered' := h.numbered_performAll hstore.numbered operations
  obtain ⟨hready, hready', hknows, -⟩ := h.encoder.ready hcomplete
  obtain ⟨hlast, hlast', hknows', -⟩ := hlater.encoder.ready hcomplete
  have hgrows' := hgrows.encoder.trans hlast'
  obtain ⟨encoder, -, hdeduce⟩ := h.fits.deduce h.encoder hcomplete hlimit
  obtain ⟨encoder', -, hdeduce'⟩ := hlater.fits.deduce hlater.encoder hcomplete hlimit'
  -- first the table grows under the knowledge as it was, then the knowledge grows over one table
  have hrenumbers := h.fits.renumbers hstore.numbered h.encoder hready hlast hready' hgrows'
  have hrepeats' := hrepeats.repeated.repeats (h.fits.grows h.encoder hlast hgrows')
    (hlater.fits.grows hlater.encoder hlast hlast') (hstore.numbered.grows h.fits h.encoder hlast hgrows')
    (hnumbered'.grows hlater.fits hlater.encoder hlast hlast') hlast
  obtain ⟨hverdict, circles, heffort⟩ := hrepeats'.echoes_answer hknows' limit engine.machine.levels
  rw [hrenumbers.answer_eq ⟨hknows, hknows'⟩] at hverdict heffort
  refine ⟨_, _, ((store.knowledge.graph (store.encoder.ready goal)).answer limit engine.machine.levels goal).2,
    circles, hverdict, ⟨encoder, hdeduce⟩, encoder', ?_⟩
  rw [hdeduce', hmachine, ← heffort]

end Store

lemma Verdict.Echoes.holds_eq {verdict verdict' : Verdict} (h : verdict.Echoes verdict') :
    verdict'.holds = verdict.holds := by
  rcases h with rfl | ⟨rfl, rfl⟩ <;> rfl

lemma Verdict.Echoes.explanation_eq {verdict verdict' : Verdict} (h : verdict.Echoes verdict')
    (hholds : verdict.holds = true) (goal : Fact) : verdict'.explanation goal = verdict.explanation goal := by
  rcases h with rfl | ⟨rfl, rfl⟩
  · rfl
  · simp [Verdict.holds] at hholds

/-- **Repeating what is known changes no verdict.**  Take a store in any state, and learn again what it holds: a fact
equal to one that is stored, or a rule of which the encoding is stored, any number of them, with other uses of the
encoder in between.  Whatever number limits the depth, a question with a blank concept fails as it did before, and
any other has the same answer as before, a yes with the same explanation.  The account differs in the number of
circles only. -/
theorem same_verdict_after_repetition {store : Store} (hstore : store.IsReachable)
    {operations : List Store.Operation} (hrepeats : store.RepeatsAll operations) {engine engine' : Engine}
    (hmachine : engine'.machine = engine.machine) (hdepth : engine'.maxDepth = engine.maxDepth) {limit : Number}
    (hlimit : engine.depthLimit.number? = some limit) (goal : Fact) :
    let later := store.performAll operations
    let before := engine.deduce store.encoder store.knowledge goal
    let after := engine'.deduce later.encoder later.knowledge goal
    (goal.IsComplete → ∃ verdict verdict' effort circles,
      before.1 = .ok verdict ∧ after.1 = .ok verdict' ∧ verdict'.holds = verdict.holds ∧
      (verdict.holds = true → verdict'.explanation goal = verdict.explanation goal) ∧
      before.2.1.statistics = engine.statistics.record effort verdict ∧
      after.2.1.statistics =
        engine'.statistics.record (effort.withCircles circles) verdict') ∧
    (¬ goal.IsComplete → ∃ error, before.1 = .error error ∧ after.1 = .error error) := by
  intro later before after
  have hbound := Engine.depthBound_eq_ok hlimit
  have hbound' := (Engine.depthBound_congr hmachine hdepth).trans hbound
  constructor
  · intro hcomplete
    obtain ⟨verdict, verdict', effort, circles, hechoes, ⟨encoder, hbefore⟩, encoder', hafter⟩ :=
      hstore.echoes_deduce hrepeats hmachine hbound hbound' hcomplete
    refine ⟨verdict, verdict', effort, circles, ?_, ?_, hechoes.holds_eq,
      fun hholds => hechoes.explanation_eq hholds goal, ?_, ?_⟩
    · simp only [before, hbefore]
    · simp only [after, later, hafter]
    · simp only [before, hbefore, Engine.after]
    · simp only [after, later, hafter, Engine.after]
  · intro hblank
    have h := hstore.sound
    obtain ⟨_, hrun⟩ := h.encoder.run_encodeFact_of_blank hblank
    obtain ⟨_, hrun'⟩ := (h.performAll operations).1.encoder.run_encodeFact_of_blank hblank
    refine ⟨_, congrArg Prod.fst (Engine.deduce_of_error hrun engine store.knowledge), ?_⟩
    exact congrArg Prod.fst (Engine.deduce_of_error hrun' engine' later.knowledge)

/-- A store with two rules that yield a goal, of which the first one leads nowhere. -/
def twoRulesStore : Store := (Store.fresh 0 []).performAll
  [.addRule (.rule (.all .universal "c" "p")), .addFact ⟨"a", "r", "b"⟩,
    .addRule (.rule (.standard ⟨"a", "r", "b"⟩ [] ⟨"g", "is", "p"⟩))]

/-- The first rule is learned again, in another spelling, and so is the fact. -/
def twoRulesAgain : List Store.Operation :=
  [.addRule (.rule (.quantified .universal " C" "p")), .call (.primeOf "new"), .addFact ⟨"a", "r", "b"⟩]

/-- The rule that comes again is tried again, in vain, and the answer is the same yes. -/
theorem same_yes_after_circle :
    ∃ verdict verdict' : Verdict,
      (({ machine := .usual } : Engine).deduce twoRulesStore.encoder twoRulesStore.knowledge
        ⟨"g", "is", "p"⟩).1 = .ok verdict ∧
      (({ machine := .usual } : Engine).deduce (twoRulesStore.performAll twoRulesAgain).encoder
        (twoRulesStore.performAll twoRulesAgain).knowledge ⟨"g", "is", "p"⟩).1 = .ok verdict' ∧
      verdict.holds = true ∧
      verdict'.explanation ⟨"g", "is", "p"⟩ = verdict.explanation ⟨"g", "is", "p"⟩ := by
  have hstore : twoRulesStore.IsReachable := ⟨0, [], _, rfl⟩
  have hrepeats : twoRulesStore.RepeatsAll twoRulesAgain := by decide +kernel
  have hmachine : ({ machine := .usual } : Engine).machine = ({ machine := .usual } : Engine).machine := rfl
  have hlimit : ({ machine := .usual } : Engine).depthLimit.number? = some (.whole 400) := rfl
  have hcomplete : (⟨"g", "is", "p"⟩ : Fact).IsComplete := by decide +kernel
  obtain ⟨hanswer, -⟩ := same_verdict_after_repetition hstore hrepeats hmachine rfl hlimit ⟨"g", "is", "p"⟩
  obtain ⟨verdict, verdict', _, _, hbefore, hafter, -, hexplanation, -⟩ := hanswer hcomplete
  have hyes : (({ machine := .usual } : Engine).deduce twoRulesStore.encoder twoRulesStore.knowledge
      ⟨"g", "is", "p"⟩).1.map Verdict.holds = .ok true := by decide +kernel
  rw [hbefore] at hyes
  have hholds : verdict.holds = true := Except.ok.inj hyes
  exact ⟨verdict, verdict', hbefore, hafter, hholds, hexplanation hholds⟩

-- The reason for a no may change.  When the rule is known twice, its condition is met twice, under the number of the
-- goal, and the search takes that for a circle.
example :
    let rule := Store.Operation.addRule (.rule (.all .capability "can" "is"))
    let once := (Store.fresh 0 []).perform rule
    let twice := once.perform rule
    (({ machine := .usual } : Engine).deduce once.encoder once.knowledge ⟨"s", "can", "is"⟩).1.map
      (Verdict.explanation ⟨"s", "can", "is"⟩) = .ok "Could not deduce: s can is" ∧
    (({ machine := .usual } : Engine).deduce twice.encoder twice.knowledge ⟨"s", "can", "is"⟩).1.map
      (Verdict.explanation ⟨"s", "can", "is"⟩) = .ok "Circular reasoning detected: s can is" := by
  decide +kernel

end PrimeReasoner
