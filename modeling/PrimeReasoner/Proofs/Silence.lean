import PrimeReasoner.Proofs.Collision
import PrimeReasoner.Proofs.Derivability
import PrimeReasoner.Proofs.Listing
import PrimeReasoner.Proofs.Search.Path

/-!
# What nothing is known about

A goal can only be reached through its object: a rule must conclude something about it, and a stored fact leads to
another goal with the same object.  So nothing can be derived with an object that no fact mentions and no rule
concludes anything about (`Store.Records.not_derives`).

**One fact.**  If then a single fact with this concept as its subject is stored, the question whether the concept is
itself has one way, through this fact, and back to the same three concepts in another order.  They have the same
number, so the answer is yes one level down (`Store.Records.isPath_of_link`).

**Lessons.**  What a session knows comes from the lessons of the texts since its last fresh start
(`Session.Sound.records_takeAll`), and its facts are stored under their numbers (`Session.numbered_takeAll`).
-/

namespace PrimeReasoner

namespace Store

variable {store : Store} {facts : List Fact} {rules : List Rule} {concept : String} {goal : Fact}

/-- Every stored rule comes from a recorded one. -/
lemma Records.exists_represented_of_mem (h : store.Records facts rules) {encoded : EncodedRule}
    (hencoded : encoded ∈ store.knowledge.rules) : ∃ rule ∈ rules, store.encoder.Represents rule encoded := by
  obtain ⟨i, hi, rfl⟩ := List.getElem_of_mem hencoded
  have hi' : i < rules.length := by rwa [h.rules.length_eq]
  exact ⟨rules[i], List.getElem_mem hi', h.rules.get hi' hi⟩

/-- What is concluded by the rule that a way goes through has the goal's object. -/
lemma Records.mem_concepts_of_member (h : store.Records facts rules) (hsound : store.Sound)
    {quantifier : Quantifier} {v c p q m n : Int}
    (hrule : .quantified quantifier v c p q m n ∈ store.knowledge.rules) :
    ∃ rule ∈ rules, store.encoder.conceptOf p ∈ rule.conclusion.concepts.map normalize := by
  obtain ⟨rule, hmem, hknows, hcode⟩ := h.exists_represented_of_mem hrule
  refine ⟨rule, hmem, ?_⟩
  cases rule with
  | quantified quantifier category property =>
      simp only [Encoder.ruleCode?, Option.bind_eq_bind, Option.bind_eq_some_iff, Option.pure_def,
        Option.some.injEq] at hcode
      obtain ⟨_, -, _, -, p', hproperty, _, -, _, -, _, -, heq⟩ := hcode
      obtain ⟨-, -, -, rfl, -⟩ := EncodedRule.quantified.inj heq
      rw [hsound.encoder.conceptOf_eq hproperty]
      simp [Rule.conclusion, Fact.of, Fact.concepts]
  | standard condition further conclusion =>
      rw [hsound.encoder.ruleCode?_standard hknows] at hcode
      simp at hcode

lemma Records.permutes_of_implied (h : store.Records facts rules) (hsound : store.Sound)
    (hknows : store.encoder.Knows goal.concepts) {conditions : List Int}
    (hrule : .standard conditions (store.encoder.code goal) ∈ store.knowledge.rules) :
    ∃ rule ∈ rules, rule.conclusion.Permutes goal := by
  obtain ⟨rule, hmem, hknown, hcode⟩ := h.exists_represented_of_mem hrule
  refine ⟨rule, hmem, ?_⟩
  cases rule with
  | quantified quantifier category property =>
      simp only [Encoder.ruleCode?, Option.bind_eq_bind, Option.bind_eq_some_iff, Option.pure_def,
        Option.some.injEq] at hcode
      obtain ⟨_, -, _, -, _, -, _, -, _, -, _, -, heq⟩ := hcode
      simp at heq
  | standard condition further conclusion =>
      rw [hsound.encoder.ruleCode?_standard hknown] at hcode
      obtain ⟨-, hconclusion⟩ := EncodedRule.standard.inj (Option.some.inj hcode)
      have hknown' : store.encoder.Knows conclusion.concepts :=
        fun given hgiven => hknown given (List.mem_append_right _ hgiven)
      exact (hsound.encoder.code_eq_iff hknown' hknows).mp (Int.ofNat_inj.mp hconclusion)

/-- **Only facts lead on** from a goal whose object no rule concludes anything about. -/
lemma Records.ways_eq (h : store.Records facts rules) (hsound : store.Sound) (hconcept : normalize concept = concept)
    (hrules : ∀ rule ∈ rules, concept ∉ rule.conclusion.concepts.map normalize)
    (hknows : store.encoder.Knows goal.concepts) (hobject : goal.object = concept) :
    (store.knowledge.graph store.encoder).ways goal = (store.knowledge.links goal).filterMap (linkedWay? goal) := by
  have hmember : store.knowledge.rules.filterMap (memberWay? store.encoder goal) = [] := by
    refine List.filterMap_eq_nil_iff.mpr fun encoded hencoded => ?_
    cases encoded with
    | quantified quantifier v c p q m n =>
        refine if_neg fun hmatch => ?_
        obtain ⟨rule, hmem, hconclusion⟩ := h.mem_concepts_of_member hsound hencoded
        exact hrules rule hmem (by rwa [← hobject, hmatch.2])
    | standard _ _ => rfl
    | unrecognised => rfl
  have himplied : store.knowledge.rules.filterMap (impliedWay? store.encoder (store.encoder.code goal)) = [] := by
    refine List.filterMap_eq_nil_iff.mpr fun encoded hencoded => ?_
    cases encoded with
    | quantified _ _ _ _ _ _ _ => rfl
    | standard conditions conclusion =>
        refine if_neg ?_
        rintro rfl
        obtain ⟨rule, hmem, hperm⟩ := h.permutes_of_implied hsound hknows hencoded
        exact hrules rule hmem (hperm.mem_iff.mpr (by simp [Fact.concepts, hobject, hconcept]))
    | unrecognised => rfl
  rw [Knowledge.graph]
  dsimp only
  rw [hmember, himplied, List.nil_append, List.nil_append]

/-- **Nothing follows about a concept** that no fact mentions and no rule concludes anything about.  By induction on
the derivation: a link leads to a goal with the same object. -/
lemma Records.not_derives (h : store.Records facts rules) (hsound : store.Sound)
    (hnumbered : store.knowledge.Numbered store.encoder) (hconcept : normalize concept = concept)
    (hfacts : ∀ fact ∈ facts, concept ∉ fact.concepts.map normalize)
    (hrules : ∀ rule ∈ rules, concept ∉ rule.conclusion.concepts.map normalize)
    (hknows : store.encoder.Knows goal.concepts) (hobject : goal.object = concept) :
    ¬ (store.knowledge.graph store.encoder).Derives goal := by
  intro hderives
  induction hderives with
  | @held goal hholds =>
      obtain ⟨fact, hfact, hperm⟩ :=
        (hsound.fits.holds_code_iff hnumbered hsound.encoder hknows).mp hholds
      rw [h.facts] at hfact
      refine hfacts fact hfact (hperm.mem_iff.mpr ?_)
      simp [Fact.concepts, hobject, hconcept]
  | @way goal way hway _ ih =>
      have hpremises := hsound.fits.knows_premises hsound.encoder hknows hway
      rw [h.ways_eq hsound hconcept hrules hknows hobject] at hway
      obtain ⟨stored, -, hlinked⟩ := List.mem_filterMap.mp hway
      obtain ⟨-, rfl⟩ : _ ∧ Way.linked stored.object = way := by
        simpa only [linkedWay?, Option.ite_none_right_eq_some, Option.some.injEq] using hlinked
      refine ih _ (List.mem_singleton_self _) (hpremises _ (List.mem_singleton_self _)) ?_
      simp [Fact.of, hobject, hconcept]

/-! ## A single link -/

/-- The question whether a concept is itself, and the goal that a link leads to. -/
def selfGoals (concept link : String) : ℕ → Fact
  | 0 => ⟨concept, "is", concept⟩
  | _ => ⟨link, "is", concept⟩

section Link

variable {link : String} (h : store.Records (facts ++ [⟨concept, "is", link⟩]) rules) (hsound : store.Sound)
  (hconcept : normalize concept = concept)
  (hfacts : ∀ fact ∈ facts, concept ∉ fact.concepts.map normalize)
  (hrules : ∀ rule ∈ rules, concept ∉ rule.conclusion.concepts.map normalize)

include h hsound hconcept hfacts

lemma Records.not_holds_self (hnumbered : store.knowledge.Numbered store.encoder) (hlink : normalize link = link)
    (hne : link ≠ concept) (hne' : link ≠ "is")
    (hknows : store.encoder.Knows (⟨concept, "is", concept⟩ : Fact).concepts) :
    ¬ store.knowledge.holds (store.encoder.code ⟨concept, "is", concept⟩) = true := by
  have his : normalize "is" = "is" := by decide +kernel
  rw [hsound.fits.holds_code_iff hnumbered hsound.encoder hknows, h.facts]
  rintro ⟨stored, hstored, hperm⟩
  rcases List.mem_append.mp hstored with hstored | hstored
  · exact hfacts stored hstored (hperm.mem_iff.mpr (by simp [Fact.concepts, hconcept]))
  · obtain rfl := List.mem_singleton.mp hstored
    have hmem : link ∈ [concept, "is", concept].map normalize := hperm.mem_iff.mp (by simp [Fact.concepts, hlink])
    simp [hconcept, his, hne, hne'] at hmem

include hrules in
lemma Records.ways_self (hknows : store.encoder.Knows (⟨concept, "is", concept⟩ : Fact).concepts) :
    (store.knowledge.graph store.encoder).ways ⟨concept, "is", concept⟩ = [.linked link] := by
  have htransitive : isTransitive "is" = true := by decide
  have hnone : facts.filterMap (linkedWay? ⟨concept, "is", concept⟩) = [] := by
    refine List.filterMap_eq_nil_iff.mpr fun fact hfact => if_neg fun hmatch => ?_
    exact hfacts fact hfact (by simp [Fact.concepts, hmatch.1, hconcept])
  rw [h.ways_eq hsound hconcept hrules hknows rfl, Knowledge.links, if_pos htransitive, h.facts,
    List.filterMap_append, hnone]
  simp [linkedWay?]

include hrules in
/-- **A single link.**  From the question whether a concept is itself, there is one way, to a goal that is stored. -/
lemma Records.isPath_of_link (hnumbered : store.knowledge.Numbered store.encoder) (hlink : normalize link = link)
    (hne : link ≠ concept) (hne' : link ≠ "is")
    (hknows : store.encoder.Knows (⟨concept, "is", concept⟩ : Fact).concepts) :
    (store.knowledge.graph store.encoder).IsPath (selfGoals concept link) (fun _ => link) 1 := by
  have his : normalize "is" = "is" := by decide +kernel
  have hstored : ⟨concept, "is", link⟩ ∈ store.knowledge.facts := by simp [h.facts]
  have hself := h.not_holds_self hsound hconcept hfacts hnumbered hlink hne hne' hknows
  have hback : store.knowledge.holds (store.encoder.code ⟨link, "is", concept⟩) = true := by
    have hreverse : (⟨concept, "is", link⟩ : Fact).concepts.Perm (⟨link, "is", concept⟩ : Fact).concepts :=
      List.reverse_perm [link, "is", concept]
    have hperm : (⟨concept, "is", link⟩ : Fact).Permutes ⟨link, "is", concept⟩ := hreverse.map normalize
    have hknown : store.encoder.Knows (⟨link, "is", concept⟩ : Fact).concepts := fun given hgiven =>
      hsound.fits.facts _ hstored given (hreverse.mem_iff.mpr hgiven)
    exact (hsound.fits.holds_code_iff hnumbered hsound.encoder hknown).mpr ⟨_, hstored, hperm⟩
  have htext : (⟨concept, "is", concept⟩ : Fact).text ≠ (⟨link, "is", concept⟩ : Fact).text := by
    intro heq
    rw [← String.toList_inj, Fact.toList_text, Fact.toList_text] at heq
    exact hne (String.toList_inj.mp (List.append_cancel_right heq)).symm
  have hcases : ∀ i ≤ 1, i = 0 ∨ i = 1 := fun i => Nat.le_one_iff_eq_zero_or_eq_one.mp
  constructor
  · intro i j hi hj heq
    rcases hcases i hi with rfl | rfl <;> rcases hcases j hj with rfl | rfl
    · rfl
    · exact absurd heq htext
    · exact absurd heq.symm htext
    · rfl
  · intro i hi
    rcases hcases i hi with rfl | rfl
    · exact iff_of_false hself zero_ne_one
    · exact iff_of_true hback rfl
  · intro i hi
    obtain rfl := Nat.lt_one_iff.mp hi
    exact h.ways_self hsound hconcept hfacts hrules hknows
  · intro i hi
    obtain rfl := Nat.lt_one_iff.mp hi
    simp [selfGoals, Way.premises, Fact.of, hlink, his, hconcept]

end Link

/-- **One fact about a concept**, which does not have it as its object.  The question whether the subject of the fact is
the concept is answered with yes exactly if they are the same and the link may be followed. -/
theorem Records.holds_answer_iff {subject link : String} {limit : Int} {levels : ℕ} (hlevels : 1 < levels)
    (h : store.Records (facts ++ [⟨subject, "is", link⟩]) rules) (hsound : store.Sound)
    (hnumbered : store.knowledge.Numbered store.encoder) (hdepth : 0 ≤ limit)
    (hfacts : ∀ fact ∈ facts, concept ∉ fact.concepts.map normalize)
    (hrules : ∀ rule ∈ rules, concept ∉ rule.conclusion.concepts.map normalize)
    (hsubject : normalize subject = subject) (hconcept : normalize concept = concept)
    (hlink : normalize link = link) (hne : link ≠ concept) (his : link ≠ "is" ∧ concept ≠ "is")
    (hknows : store.encoder.Knows (⟨subject, "is", concept⟩ : Fact).concepts) :
    ((store.knowledge.graph store.encoder).answer limit levels ⟨subject, "is", concept⟩).1.holds = true ↔
      subject = concept ∧ 1 ≤ limit := by
  by_cases hsame : subject = concept
  · subst hsame
    have hpath := h.isPath_of_link hsound hconcept hfacts hrules hnumbered hlink hne his.1 hknows
    have hgoal : selfGoals subject link 0 = ⟨subject, "is", subject⟩ := rfl
    rw [← hgoal]
    by_cases hlimit : 1 ≤ limit
    · rw [hpath.answer_of_le (by exact_mod_cast hlimit) (by omega)]
      simp [Verdict.holds, hlimit]
    · obtain rfl : limit = ((0 : ℕ) : Int) := by omega
      rw [hpath.answer_of_lt Nat.zero_lt_one (by omega)]
      simp [Verdict.holds]
  · refine iff_of_false (fun hyes => ?_) (fun hself => hsame hself.1)
    refine h.not_derives hsound hnumbered hconcept ?_ hrules hknows rfl (Graph.derives_of_answer hyes)
    intro fact hfact
    rcases List.mem_append.mp hfact with hfact | hfact
    · exact hfacts fact hfact
    · have hmatches : normalize "is" = "is" := by decide +kernel
      obtain rfl := List.mem_singleton.mp hfact
      simp [Fact.concepts, hsubject, hlink, hmatches, Ne.symm hsame, hne.symm, his.2]

end Store

/-! ## Lessons of a session -/

namespace Lesson

/-- What a lesson states or concludes. -/
def claim? : Lesson → Option Fact
  | .fact added => some added
  | .rule added => some added.conclusion
  | .rejected _ => none

/-- The lesson states and concludes nothing about the concept. -/
def IsSilent (concept : String) (lesson : Lesson) : Prop :=
  ∀ claim ∈ lesson.claim?, concept ∉ claim.concepts.map normalize

lemma IsSilent.of_fact? {concept : String} {lesson : Lesson} (h : lesson.IsSilent concept) {fact : Fact}
    (hfact : lesson.fact? = some fact) : concept ∉ fact.concepts.map normalize := by
  cases lesson with
  | fact added => exact Option.some.inj hfact ▸ h added rfl
  | _ => simp [fact?] at hfact

lemma IsSilent.of_rule? {concept : String} {lesson : Lesson} (h : lesson.IsSilent concept) {rule : Rule}
    (hrule : lesson.rule? = some rule) : concept ∉ rule.conclusion.concepts.map normalize := by
  cases lesson with
  | rule added => exact Option.some.inj hrule ▸ h added.conclusion rfl
  | _ => simp [rule?] at hrule

end Lesson

lemma Answer.reply_eq_yes_iff (question : String) (goal : Fact) (verdict : Verdict) :
    (⟨question, some goal, some verdict⟩ : Answer).reply = .yes ↔ verdict.holds = true := by
  simp [reply]

namespace Session

variable {session : Session} {limit : Int} {lessons : List Lesson}

/-- What has been taught since the last fresh start, one turn later. -/
def lessonsAfter (lessons : List Lesson) : Turn → List Lesson
  | .learn text => lessons ++ Lesson.readAll text
  | .reset => []
  | _ => lessons

/-- **What a session knows** comes from the lessons since its last fresh start. -/
lemma Sound.records_takeAll (h : session.Sound limit) (hrecords : session.Records lessons) (turns : List Turn) :
    (session.takeAll turns).Records (turns.foldl lessonsAfter lessons) := by
  induction turns generalizing session lessons with
  | nil => exact hrecords
  | cons turn turns ih =>
      refine ih (h.take turn) ?_
      cases turn with
      | learn text => exact hrecords.learn h text
      | ask question => exact hrecords.ask h question
      | summarise => exact hrecords.summary h
      | reset => exact Store.records_fresh session.sieveBound []

lemma numbered_teachAll {store : Store} (h : store.Sound) (hnumbered : store.knowledge.Numbered store.encoder)
    (lessons : List Lesson) :
    (lessons.foldl Store.teach store).knowledge.Numbered (lessons.foldl Store.teach store).encoder := by
  induction lessons generalizing store with
  | nil => exact hnumbered
  | cons lesson lessons ih =>
      refine ih (h.teach lesson).1 ?_
      cases lesson with
      | rule added =>
          have hadded := h.numbered_perform hnumbered (.addRule (.rule added))
          rw [Store.perform] at hadded
          rw [Store.teach]
          exact hadded
      | fact added =>
          have hadded := h.numbered_perform hnumbered (.addFact added)
          rw [Store.perform] at hadded
          rw [Store.teach]
          exact hadded
      | rejected text => exact hnumbered

lemma numbered_take (h : session.store.Sound) (hnumbered : session.store.knowledge.Numbered session.store.encoder)
    (turn : Turn) : (session.take turn).store.knowledge.Numbered (session.take turn).store.encoder := by
  cases turn with
  | learn text =>
      rw [take, learn_eq h, store_teach]
      exact numbered_teachAll h hnumbered (Lesson.readAll text)
  | ask question =>
      rw [take]
      rcases session.store_ask question with hstore | ⟨goal, hstore⟩
      · rw [hstore]
        exact hnumbered
      · rw [hstore]
        exact h.numbered_perform hnumbered _
  | summarise =>
      obtain ⟨texts, later, hsummary, hsame, -, -⟩ := exists_summary h
      rw [take, hsummary]
      exact hnumbered.grows h.fits h.encoder hsame.sound hsame.grows
  | reset => rfl

/-- **The numbers of a session** are up to date after any turns. -/
lemma numbered_takeAll (h : session.store.Sound)
    (hnumbered : session.store.knowledge.Numbered session.store.encoder) (turns : List Turn) :
    (session.takeAll turns).store.knowledge.Numbered (session.takeAll turns).store.encoder := by
  induction turns generalizing session with
  | nil => exact hnumbered
  | cons turn turns ih => exact ih (sound_take h turn) (numbered_take h hnumbered turn)

/-- **One lesson about a concept.**  If a session was taught nothing else about a concept than the last fact, which does
not have it as its object, then the question whether the subject of this fact is the concept is answered with yes
exactly if they are the same and the link may be followed. -/
theorem Sound.yes_iff_of_silent (h : session.Sound limit) (hdepth : 0 ≤ limit)
    (hnumbered : session.store.knowledge.Numbered session.store.encoder) {subject link concept question : String}
    (hrecords : session.Records (lessons ++ [.fact ⟨subject, "is", link⟩]))
    (hsilent : ∀ lesson ∈ lessons, lesson.IsSilent concept)
    (hgoal : Sentence.question? question.toList = some ⟨subject, "is", concept⟩)
    (hsubject : normalize subject = subject) (hconcept : normalize concept = concept)
    (hlink : normalize link = link) (hne : link ≠ concept) (his : link ≠ "is" ∧ concept ≠ "is") :
    ∃ answer, (session.ask question).1 = .ok answer ∧ (answer.reply = .yes ↔ subject = concept ∧ 1 ≤ limit) := by
  obtain ⟨hready, hgrows, hknows, -⟩ := h.store.encoder.ready (Sentence.question?_isComplete hgoal)
  obtain ⟨hresult, -⟩ := h.ask_of_some hgoal
  rw [Session.Records, List.filterMap_append, List.filterMap_append] at hrecords
  simp only [List.filterMap_cons, List.filterMap_nil, Lesson.fact?, Lesson.rule?, List.append_nil] at hrecords
  have hfacts : ∀ fact ∈ lessons.filterMap Lesson.fact?, concept ∉ fact.concepts.map normalize := by
    intro fact hfact
    obtain ⟨lesson, hlesson, hsome⟩ := List.mem_filterMap.mp hfact
    exact (hsilent lesson hlesson).of_fact? hsome
  have hrules : ∀ rule ∈ lessons.filterMap Lesson.rule?, concept ∉ rule.conclusion.concepts.map normalize := by
    intro rule hrule
    obtain ⟨lesson, hlesson, hsome⟩ := List.mem_filterMap.mp hrule
    exact (hsilent lesson hlesson).of_rule? hsome
  -- the search sees the store with the concepts of the question in its table
  generalize session.store.encoder.ready ⟨subject, "is", concept⟩ = encoder at hready hgrows hknows hresult
  have hsound : ({ session.store with encoder } : Store).Sound :=
    ⟨hready, h.store.fits.grows h.store.encoder hready hgrows⟩
  have hstored : ({ session.store with encoder } : Store).Records _ _ :=
    hrecords.grows h.store hready hgrows rfl
  have hnumbered' := hnumbered.grows h.store.fits h.store.encoder hready hgrows
  have hroomy : 400 + 1 < session.engine.machine.levels := session.engine.machine.roomy
  refine ⟨_, hresult, ?_⟩
  rw [Answer.reply_eq_yes_iff]
  exact hstored.holds_answer_iff (by omega) hsound hnumbered' hdepth hfacts hrules hsubject hconcept hlink hne his
    hknows

end Session

end PrimeReasoner
