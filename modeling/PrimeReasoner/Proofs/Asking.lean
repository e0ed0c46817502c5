import PrimeReasoner.Proofs.Listing

/-!
# Asking teaches nothing

A question adds no fact and no rule.  It does enter its concepts into the table, though, and the order of the
table shows in the listing of the rules: an implication that is learned after a question may read differently
from one that is learned before it (`rule_reads_differently`).

**Up to that order**, the listing after some texts have been learned does not depend on the questions that were
asked on the way (`summary_despite_questions`).

**Familiar questions.**  A question about concepts that are in the table already enters nothing
(`Session.Sound.concepts_ask`), so questions of this kind leave no trace in the listing at all.
-/

namespace PrimeReasoner

/-! ## The table of a session -/

/-- The concepts that are asked for when the lesson is learned. -/
def Lesson.concepts : Lesson → List String
  | .rule added => added.concepts
  | .fact added => added.concepts
  | .rejected _ => []

namespace Store

lemma Sound.concepts_teach {store : Store} (h : store.Sound) {lesson : Lesson} (hlesson : lesson.IsComplete) :
    (store.teach lesson).encoder.concepts = requestAll store.encoder.concepts lesson.concepts := by
  cases lesson with
  | rule rule =>
      obtain ⟨-, hconcepts, -⟩ := Encoder.asks_encodeRule rule _ h.encoder
      rw [untilBlank_of_ne hlesson] at hconcepts
      rw [Store.teach, Store.addRule, Encoder.encodeProposal]
      rcases hrun : (Encoder.encodeRule rule).run.run store.encoder with ⟨error | encoded, later⟩
      all_goals rw [hrun] at hconcepts; exact hconcepts
  | fact fact =>
      obtain ⟨-, hconcepts, -⟩ := Encoder.asks_encodeFact fact _ h.encoder
      rw [untilBlank_of_ne hlesson] at hconcepts
      rw [Store.teach, Store.addFact]
      rcases hrun : (Encoder.encodeFact fact).run.run store.encoder with ⟨error | n, later⟩
      all_goals rw [hrun] at hconcepts; exact hconcepts
  | rejected text => rfl

lemma Sound.concepts_teachAll {store : Store} (h : store.Sound) {lessons : List Lesson}
    (hlessons : ∀ lesson ∈ lessons, lesson.IsComplete) :
    (lessons.foldl Store.teach store).encoder.concepts =
      requestAll store.encoder.concepts (lessons.flatMap Lesson.concepts) := by
  induction lessons generalizing store with
  | nil => rfl
  | cons lesson lessons ih =>
      obtain ⟨hcomplete, hrest⟩ := List.forall_mem_cons.mp hlessons
      rw [List.flatMap_cons, requestAll_append, ← h.concepts_teach hcomplete]
      exact ih (h.teach lesson).1 hrest

end Store

namespace Session

variable {session : Session} {limit : Int}

/-- The concepts in the table of the session, in their order. -/
def concepts (session : Session) : List String := session.store.encoder.concepts

/-- **Learning** asks for the concepts of the lessons, and for nothing else. -/
lemma Sound.concepts_learn (h : session.Sound limit) (text : String) :
    (session.learn text).2.concepts =
      requestAll session.concepts ((Lesson.readAll text).flatMap Lesson.concepts) := by
  rw [learn_eq h.store]
  exact h.store.concepts_teachAll (Lesson.readAll_isComplete text)

/-- **A familiar question** enters nothing. -/
lemma Sound.concepts_ask (h : session.Sound limit) {question : String}
    (hfamiliar : ∀ goal, Sentence.question? question.toList = some goal →
      session.store.encoder.Knows goal.concepts) : (session.ask question).2.concepts = session.concepts := by
  cases hgoal : Sentence.question? question.toList with
  | none => rw [Session.ask, hgoal]; rfl
  | some goal =>
      obtain ⟨-, -, -, -, hsame⟩ := h.ask_of_some hgoal
      obtain ⟨n, later, hrun, hready, -⟩ := h.store.encoder.run_encodeFact (hfamiliar goal hgoal)
      have hlater : session.store.encoder.ready goal = later := by rw [Encoder.ready, hrun]
      rw [hlater] at hsame
      exact Encoder.concepts_congr (hready.trans hsame).table

lemma Sound.concepts_summary (h : session.Sound limit) : session.summary.2.concepts = session.concepts := by
  obtain ⟨texts, later, hsummary, hsame, -, -⟩ := exists_summary h.store
  rw [hsummary]
  exact Encoder.concepts_congr hsame.table

/-- Every question among the turns is about concepts that are in the table when it is asked. -/
def Familiar (session : Session) (turns : List Turn) : Prop :=
  ∀ (before : List Turn) (question : String) (after : List Turn) (goal : Fact),
    turns = before ++ .ask question :: after → Sentence.question? question.toList = some goal →
      (session.takeAll before).store.encoder.Knows goal.concepts

lemma Familiar.tail {turn : Turn} {turns : List Turn} (h : session.Familiar (turn :: turns)) :
    (session.take turn).Familiar turns := fun before question after goal hturns hgoal =>
  h (turn :: before) question after goal (by rw [hturns, List.cons_append]) hgoal

/-- The same texts, the same table, if the questions are familiar: by induction from the first turn, with the
two sessions side by side. -/
lemma Sound.concepts_takeAll {plain asked : Session} {limit' : Int} (hplain : plain.Sound limit)
    (hasked : asked.Sound limit') {turns : List Turn} (hturns : Turn.reset ∉ turns)
    (hfamiliar : asked.Familiar turns) (hconcepts : asked.concepts = plain.concepts) :
    (asked.takeAll turns).concepts =
      (plain.takeAll ((turns.filterMap Turn.text?).map .learn)).concepts := by
  induction turns generalizing plain asked with
  | nil => exact hconcepts
  | cons turn turns ih =>
      rw [List.mem_cons, not_or] at hturns
      rw [takeAll_cons]
      cases turn with
      | learn text =>
          simp only [List.filterMap_cons, Turn.text?, List.map_cons, takeAll_cons]
          refine ih (hplain.take _) (hasked.take _) hturns.2 hfamiliar.tail ?_
          rw [Session.take, Session.take, hplain.concepts_learn, hasked.concepts_learn, hconcepts]
      | ask question =>
          simp only [List.filterMap_cons, Turn.text?]
          refine ih hplain (hasked.take _) hturns.2 hfamiliar.tail ?_
          rw [Session.take, hasked.concepts_ask (hfamiliar [] question turns · rfl), hconcepts]
      | summarise =>
          simp only [List.filterMap_cons, Turn.text?]
          refine ih hplain (hasked.take _) hturns.2 hfamiliar.tail ?_
          rw [Session.take, hasked.concepts_summary, hconcepts]
      | reset => exact absurd rfl hturns.1

end Session

/-! ## The listing -/

/-- The rules differ in the order of the concepts within each fact of an implication, if at all. -/
def Rule.Permutes : Rule → Rule → Prop
  | .standard condition further conclusion, .standard condition' further' conclusion' =>
    List.Forall₂ Fact.Permutes (condition :: further) (condition' :: further') ∧
      conclusion.Permutes conclusion'
  | rule, rule' => rule = rule'

/-- Two tables arrange a rule alike, up to that order. -/
lemma Encoder.permutes_arrangeRule (first second : Encoder) (rule : Rule) :
    (first.arrangeRule rule).Permutes (second.arrangeRule rule) := by
  have hfact : ∀ fact, (first.arrange fact).Permutes (second.arrange fact) := fun fact =>
    ((first.perm_concepts_arrange fact).trans (second.perm_concepts_arrange fact).symm).map normalize
  cases rule with
  | quantified quantifier category property => rfl
  | standard condition further conclusion =>
      refine ⟨.cons (hfact condition) ?_, hfact conclusion⟩
      rw [List.forall₂_map_left_iff, List.forall₂_map_right_iff, List.forall₂_same]
      exact fun fact _ => hfact fact

lemma Encoder.arrangeRule_eq_of_concepts {first second : Encoder} (h : first.Sound) (h' : second.Sound)
    (hconcepts : second.concepts = first.concepts) : second.arrangeRule = first.arrangeRule :=
  arrangeRule_congr ⟨h', by rw [h.table, h'.table, hconcepts]⟩

/-- **Asking teaches nothing.**  Texts are learned in a session whose depth limit is an integer or the default,
and questions are asked before, between and after them; or the same texts are learned and nothing is asked.  In
both cases the facts are listed alike.  The rules are those of the texts, in their order, and they too are listed
alike, up to the order of the concepts within the facts of an implication, which is the order of the table.  If
all questions are about concepts that are in the table by then, there is no difference at all. -/
theorem summary_despite_questions {machine : Machine} {config : Config} {session : Session}
    (hdepth : config.maxDepth = .null ∨ ∃ m, config.maxDepth = .int m)
    (hsession : Session.ofConfig machine config = .ok session) (turns : List Session.Turn)
    (hturns : Session.Turn.reset ∉ turns) :
    let texts := turns.filterMap Session.Turn.text?
    let plain := session.takeAll (texts.map .learn)
    let asked := session.takeAll turns
    let rules := (Session.lessonsOf texts).filterMap Lesson.rule?
    asked.summary.1.facts = plain.summary.1.facts ∧
    asked.summary.1.rules = rules.map (fun rule => (asked.store.encoder.arrangeRule rule).text) ∧
    plain.summary.1.rules = rules.map (fun rule => (plain.store.encoder.arrangeRule rule).text) ∧
    (∀ rule ∈ rules, (plain.store.encoder.arrangeRule rule).Permutes (asked.store.encoder.arrangeRule rule)) ∧
    (session.Familiar turns → asked.summary.1 = plain.summary.1) := by
  intro texts plain asked rules
  obtain ⟨limit, hsound⟩ := Session.sound_ofConfig hdepth hsession
  have hfresh : session.Records [] := by
    obtain ⟨bound, rfl⟩ := Session.eq_start_of_ofConfig hsession
    exact Store.records_fresh bound []
  have hasked : asked.Sound limit := hsound.takeAll turns
  have hplain : plain.Sound limit := hsound.takeAll (texts.map .learn)
  have htexts : (texts.map Session.Turn.learn).filterMap Session.Turn.text? = texts := by
    rw [List.filterMap_map]
    exact List.filterMap_some
  have hlearned : Session.Turn.reset ∉ texts.map .learn := by simp
  have hsummary := hasked.summary_eq (hfresh.takeAll hsound hturns)
  have hsummary' := hplain.summary_eq (hfresh.takeAll hsound hlearned)
  rw [List.nil_append] at hsummary hsummary'
  rw [htexts] at hsummary'
  refine ⟨?_, ?_, ?_, fun rule _ => Encoder.permutes_arrangeRule _ _ rule, fun hfamiliar => ?_⟩
  · rw [hsummary, hsummary']
  · rw [hsummary]
  · rw [hsummary']
  · have hconcepts := hsound.concepts_takeAll hsound hturns hfamiliar rfl
    rw [hsummary, hsummary',
      Encoder.arrangeRule_eq_of_concepts hplain.store.encoder hasked.store.encoder hconcepts]

/-- A session in which nothing has been learned yet. -/
def blankSession : Session := Session.start .usual { sieveLimit := .int 0 } 0

/-- A question between two texts, about what the first one says. -/
def familiarTurns : List Session.Turn :=
  [.learn "a is b", .ask "is b a", .learn "if a is b then c is d"]

theorem summary_despite_familiar_question :
    (blankSession.takeAll familiarTurns).summary.1 =
        (blankSession.takeAll [.learn "a is b", .learn "if a is b then c is d"]).summary.1 ∧
      (blankSession.takeAll familiarTurns).summary.1.rules = ["IF (a is b) THEN (is c d)"] := by
  have hsession : Session.ofConfig .usual { sieveLimit := .int 0 } = .ok blankSession := rfl
  have hread : Sentence.question? "is b a".toList = some ⟨"b", "is", "a"⟩ := by decide +kernel
  have hknows : ∀ given ∈ ["b", "is", "a"],
      normalize given ∈ (blankSession.takeAll [.learn "a is b"]).store.encoder.concepts := by
    decide +kernel
  have hfamiliar : blankSession.Familiar familiarTurns := by
    intro before question after goal hturns hgoal
    obtain ⟨rfl, rfl⟩ : before = [.learn "a is b"] ∧ question = "is b a" := by
      rcases before with _ | ⟨_, _ | ⟨_, _ | ⟨_, _⟩⟩⟩ <;> simp_all [familiarTurns]
    obtain rfl := Option.some.inj (hread.symm.trans hgoal)
    exact hknows
  obtain ⟨-, -, -, -, hsame⟩ := summary_despite_questions (.inl rfl) hsession familiarTurns
    (by simp [familiarTurns])
  exact ⟨hsame hfamiliar, by decide +kernel⟩

/-- **A rule reads differently** when a question has been asked before it was learned. -/
theorem rule_reads_differently :
    Session.ofConfig .usual { sieveLimit := .int 0 } = .ok blankSession ∧
    (blankSession.takeAll [.learn "if a is b then c is d"]).summary.1.rules =
      ["IF (a is b) THEN (is c d)"] ∧
    (blankSession.takeAll [.ask "is b a", .learn "if a is b then c is d"]).summary.1.rules =
      ["IF (b is a) THEN (is c d)"] := by
  refine ⟨rfl, ?_⟩
  decide +kernel

end PrimeReasoner
