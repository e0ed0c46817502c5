import PrimeReasoner.Proofs.Decoding
import PrimeReasoner.Proofs.Session

/-!
# What a store shows of its contents

Facts are listed as they were added.  Rules are not kept as sentences: only their numbers are stored, and a
sentence is made from the numbers each time the rules are listed.

**One rule.**  The sentence is that of the rule with its facts arranged (`Encoder.arrangeRule`), and it stays so
while the table grows (`Encoder.Sound.run_describe_arranged`).

**The whole list.**  `Store.Records` says which facts and rules, in which order, the contents of a store come
from.  Adding extends the record, and whatever else is done to the encoder leaves it alone, so the listing is
known from the record and the table (`Store.Records.ruleTexts`).  For a session, the record is what its lessons
have taught since it was started (`Session.Sound.summary_eq`).
-/

namespace PrimeReasoner

namespace Encoder

variable {encoder later : Encoder} {rule : Rule} {encoded : EncodedRule}

/-- The rule with the concepts of every fact in the order of the table.  A statement about a category is left
alone, but for the spelling. -/
def arrangeRule (encoder : Encoder) : Rule → Rule
  | .quantified quantifier category property => Rule.all quantifier category property
  | .standard condition further conclusion =>
    .standard (encoder.arrange condition) (further.map encoder.arrange) (encoder.arrange conclusion)

/-- The encoded rule is what the table makes of the rule. -/
structure Represents (encoder : Encoder) (rule : Rule) (encoded : EncodedRule) : Prop where
  knows : encoder.Knows rule.concepts
  code : encoder.ruleCode? rule = some encoded

lemma Represents.grows (h : encoder.Represents rule encoded) (hsound : encoder.Sound)
    (hlater : later.Sound) (hgrows : encoder.Grows later) : later.Represents rule encoded := by
  refine ⟨h.knows.grows hgrows, ?_⟩
  rw [(asks_encodeRule rule).stable hsound h.knows hlater hgrows]
  exact h.code

lemma arrangeRule_congr (h : encoder.Same later) : later.arrangeRule = encoder.arrangeRule := by
  obtain ⟨source, table⟩ := encoder
  obtain ⟨source', table'⟩ := later
  obtain rfl : table' = table := h.table
  rfl

lemma Knows.of_mem_flatMap {facts : List Fact} (h : encoder.Knows (facts.flatMap Fact.concepts))
    {fact : Fact} (hfact : fact ∈ facts) : encoder.Knows fact.concepts := fun given hgiven =>
  h given (List.mem_flatMap.mpr ⟨fact, hfact, hgiven⟩)

/-- **The numbers of facts are read as the arranged facts.** -/
lemma Sound.map_fact?_code (h : encoder.Sound) {facts : List Fact}
    (hknows : encoder.Knows (facts.flatMap Fact.concepts)) :
    (facts.map fun fact => (encoder.code fact : Int)).map encoder.fact? =
      (facts.map encoder.arrange).map some := by
  rw [List.map_map, List.map_map]
  exact List.map_congr_left fun fact hfact => h.fact?_code (hknows.of_mem_flatMap hfact)

/-- **A rule is described by the sentence of the arranged rule.** -/
lemma Sound.run_describe_arranged (h : encoder.Sound) (hrepresents : encoder.Represents rule encoded) :
    ∃ later, (describe encoded).run encoder = ((encoder.arrangeRule rule).text, later) ∧
      encoder.Same later := by
  obtain ⟨hknows, hcode⟩ := hrepresents
  cases rule with
  | quantified quantifier category property =>
      simp only [ruleCode?, Option.bind_eq_bind, Option.bind_eq_some_iff, Option.pure_def,
        Option.some.injEq] at hcode
      obtain ⟨_, -, c, hcategory, p, hproperty, _, -, _, -, _, -, rfl⟩ := hcode
      refine ⟨encoder, ?_, h.same⟩
      rw [arrangeRule, Rule.all, Rule.text, ← h.conceptOf_eq hcategory, ← h.conceptOf_eq hproperty]
      rfl
  | standard condition further conclusion =>
      have hconditions : encoder.Knows ((condition :: further).flatMap Fact.concepts) :=
        fun given hgiven => hknows given (List.mem_append_left _ hgiven)
      have hconclusion : encoder.Knows conclusion.concepts :=
        fun given hgiven => hknows given (List.mem_append_right _ hgiven)
      rw [h.ruleCode?_standard hknows] at hcode
      obtain rfl := Option.some.inj hcode
      obtain ⟨middle, hrun, hmiddle⟩ :=
        h.run_decodeFacts ((condition :: further).map fun fact => (encoder.code fact : Int))
      obtain ⟨later, hrun', hlater⟩ := hmiddle.sound.run_decodeFact (encoder.code conclusion)
      refine ⟨later, ?_, hmiddle.trans hlater⟩
      rw [describe, run_bind_eq hrun, run_bind_eq hrun', fact?_congr hmiddle, h.map_fact?_code hconditions,
        h.fact?_code hconclusion]
      have hread : (((condition :: further).map encoder.arrange).map some).mapM id =
          some ((condition :: further).map encoder.arrange) := by
        rw [List.mapM_map]
        exact (List.mapM_pure (f := id)).trans (congrArg some (List.map_id _))
      rw [hread]
      rfl

end Encoder

namespace Lesson

/-- The fact that is taught, if it is one. -/
def fact? : Lesson → Option Fact
  | .fact added => some added
  | _ => none

/-- The rule that is taught, if it is one. -/
def rule? : Lesson → Option Rule
  | .rule added => some added
  | _ => none

end Lesson

namespace Store

/-- **What the contents of a store come from.** -/
structure Records (store : Store) (facts : List Fact) (rules : List Rule) : Prop where
  facts : store.knowledge.facts = facts
  rules : List.Forall₂ store.encoder.Represents rules store.knowledge.rules

variable {store : Store} {facts : List Fact} {rules : List Rule}

lemma records_fresh (sieveLimit : Int) (before : List Prime.Request) :
    (fresh sieveLimit before).Records [] [] :=
  ⟨rfl, .nil⟩

/-- A larger table alone leaves the record as it was. -/
lemma Records.grows (h : store.Records facts rules) (hstore : store.Sound) {later : Store}
    (hlater : later.encoder.Sound) (hgrows : store.encoder.Grows later.encoder)
    (hknowledge : later.knowledge = store.knowledge) : later.Records facts rules := by
  constructor
  · rw [hknowledge, h.facts]
  · rw [hknowledge]
    exact h.rules.imp fun _ _ hrepresents => hrepresents.grows hstore.encoder hlater hgrows

lemma Records.addFact (h : store.Records facts rules) (hstore : store.Sound) {fact : Fact}
    (hfact : fact.IsComplete) : (store.addFact fact).2.Records (facts ++ [fact]) rules := by
  obtain ⟨n, later, hrun⟩ := (Encoder.asks_encodeFact fact).exists_ok hstore.encoder hfact
  obtain ⟨hgrows, hlater, -, -⟩ := (Encoder.asks_encodeFact fact).knows hstore.encoder hrun
  have hkept : Records { store with encoder := later } facts rules := h.grows hstore hlater hgrows rfl
  rw [Store.addFact, hrun]
  exact ⟨by simp [Knowledge.withFact, h.facts], hkept.rules⟩

lemma Records.addRule (h : store.Records facts rules) (hstore : store.Sound) {rule : Rule}
    (hrule : rule.IsComplete) : (store.addRule (.rule rule)).2.Records facts (rules ++ [rule]) := by
  obtain ⟨encoded, later, hrun⟩ := (Encoder.asks_encodeRule rule).exists_ok hstore.encoder hrule
  obtain ⟨hgrows, hlater, hknows, hcode⟩ := (Encoder.asks_encodeRule rule).knows hstore.encoder hrun
  have hkept : Records { store with encoder := later } facts rules := h.grows hstore hlater hgrows rfl
  rw [Store.addRule, Encoder.encodeProposal, hrun]
  have hnew : later.Represents rule encoded := ⟨hknows, hcode later hlater (Encoder.Grows.refl later)⟩
  exact ⟨h.facts, List.rel_append hkept.rules (.cons hnew .nil)⟩

lemma Records.teach (h : store.Records facts rules) (hstore : store.Sound) {lesson : Lesson}
    (hlesson : lesson.IsComplete) :
    (store.teach lesson).Records (facts ++ lesson.fact?.toList) (rules ++ lesson.rule?.toList) := by
  cases lesson with
  | rule added => simpa [Store.teach, Lesson.fact?, Lesson.rule?] using h.addRule hstore hlesson
  | fact added => simpa [Store.teach, Lesson.fact?, Lesson.rule?] using h.addFact hstore hlesson
  | rejected text => simpa [Store.teach, Lesson.fact?, Lesson.rule?] using h

/-- **Lessons** add what they teach, in order. -/
lemma Records.teachAll (h : store.Records facts rules) (hstore : store.Sound) {lessons : List Lesson}
    (hlessons : ∀ lesson ∈ lessons, lesson.IsComplete) :
    (lessons.foldl Store.teach store).Records (facts ++ lessons.filterMap Lesson.fact?)
      (rules ++ lessons.filterMap Lesson.rule?) := by
  induction lessons generalizing store facts rules with
  | nil => simpa using h
  | cons lesson lessons ih =>
      obtain ⟨hcomplete, hrest⟩ := List.forall_mem_cons.mp hlessons
      have hlast := ih (h.teach hstore hcomplete) (hstore.teach lesson).1 hrest
      simp only [List.filterMap_eq_flatMap_toList, List.flatMap_cons, ← List.append_assoc] at hlast ⊢
      exact hlast

lemma run_describeAll_arranged {encoder : Encoder} (h : encoder.Sound) {encoded : List EncodedRule}
    (hrules : List.Forall₂ encoder.Represents rules encoded) :
    ∃ later, (describeAll encoded).run encoder =
      (rules.map fun rule => (encoder.arrangeRule rule).text, later) ∧ encoder.Same later := by
  induction rules generalizing encoder encoded with
  | nil =>
      obtain rfl := List.forall₂_nil_left_iff.mp hrules
      exact ⟨encoder, rfl, h.same⟩
  | cons rule rules ih =>
      obtain ⟨first, rest, hfirst, hrest, rfl⟩ := List.forall₂_cons_left_iff.mp hrules
      obtain ⟨middle, hrun, hmiddle⟩ := h.run_describe_arranged hfirst
      obtain ⟨later, hrun', hlater⟩ := ih hmiddle.sound
        (hrest.imp fun _ _ hother => hother.grows h hmiddle.sound hmiddle.grows)
      refine ⟨later, ?_, hmiddle.trans hlater⟩
      rw [describeAll, Encoder.run_bind_eq hrun, Encoder.run_bind_eq hrun',
        Encoder.arrangeRule_congr hmiddle]
      rfl

/-- **The listing of the rules.** -/
lemma Records.ruleTexts (h : store.Records facts rules) (hstore : store.Sound) :
    (store.ruleTexts store.knowledge).1 =
      rules.map fun rule => (store.encoder.arrangeRule rule).text := by
  obtain ⟨later, hrun, -⟩ := run_describeAll_arranged hstore.encoder h.rules
  rw [Store.ruleTexts, hrun]

end Store

/-! ## Sessions -/

namespace Session

/-- The text that is learned in a turn, if it is such a turn. -/
def Turn.text? : Turn → Option String
  | .learn text => some text
  | _ => none

/-- The lessons of several texts, in order. -/
def lessonsOf (texts : List String) : List Lesson := texts.flatMap Lesson.readAll

/-- What the session knows comes from these lessons. -/
def Records (session : Session) (lessons : List Lesson) : Prop :=
  session.store.Records (lessons.filterMap Lesson.fact?) (lessons.filterMap Lesson.rule?)

variable {session : Session} {limit : Int} {lessons : List Lesson}

lemma Records.learn (h : session.Records lessons) (hsound : session.Sound limit) (text : String) :
    (session.learn text).2.Records (lessons ++ Lesson.readAll text) := by
  rw [learn_eq hsound.store, Records, List.filterMap_append, List.filterMap_append]
  exact Store.Records.teachAll h hsound.store (Lesson.readAll_isComplete text)

/-- Asking and listing teach nothing. -/
lemma Records.ask (h : session.Records lessons) (hsound : session.Sound limit) (question : String) :
    (session.ask question).2.Records lessons := by
  obtain ⟨-, hlater, hgrows⟩ := hsound.ask question
  refine Store.Records.grows h hsound.store hlater.store.encoder hgrows.encoder ?_
  cases hgoal : Sentence.question? question.toList with
  | none => rw [Session.ask, hgoal]
  | some goal => exact (hsound.ask_of_some hgoal).2.2.2.1

lemma Sound.summary_eq (h : session.Sound limit) (hrecords : session.Records lessons) :
    session.summary.1 =
      { facts := (lessons.filterMap Lesson.fact?).map Fact.text
        rules := (lessons.filterMap Lesson.rule?).map fun rule =>
          (session.store.encoder.arrangeRule rule).text } := by
  rw [Session.summary, Knowledge.factTexts, hrecords.facts, ← hrecords.ruleTexts h.store]

lemma Records.summary (h : session.Records lessons) (hsound : session.Sound limit) :
    session.summary.2.Records lessons := by
  obtain ⟨texts, later, hsummary, hsame, -, -⟩ := exists_summary hsound.store
  rw [hsummary]
  exact Store.Records.grows h hsound.store hsame.sound hsame.grows rfl

lemma lessonsOf_filterMap_cons (turn : Turn) (turns : List Turn) :
    lessonsOf ((turn :: turns).filterMap Turn.text?) =
      lessonsOf turn.text?.toList ++ lessonsOf (turns.filterMap Turn.text?) := by
  rw [List.filterMap_cons]
  cases turn.text? <;> simp [lessonsOf]

/-- **A turn** teaches the lessons of its text, and nothing else. -/
lemma Records.take (h : session.Records lessons) (hsound : session.Sound limit) {turn : Turn}
    (hturn : turn ≠ .reset) : (session.take turn).Records (lessons ++ lessonsOf turn.text?.toList) := by
  cases turn with
  | learn text =>
      rw [Session.take]
      simpa [Turn.text?, lessonsOf] using h.learn hsound text
  | ask question =>
      rw [Session.take]
      simpa [Turn.text?, lessonsOf] using h.ask hsound question
  | summarise =>
      rw [Session.take]
      simpa [Turn.text?, lessonsOf] using h.summary hsound
  | reset => exact absurd rfl hturn

/-- **A run of turns** teaches the lessons of its texts, and nothing else. -/
lemma Records.takeAll (h : session.Records lessons) (hsound : session.Sound limit) {turns : List Turn}
    (hturns : Turn.reset ∉ turns) :
    (session.takeAll turns).Records (lessons ++ lessonsOf (turns.filterMap Turn.text?)) := by
  induction turns generalizing session lessons with
  | nil =>
      rw [List.filterMap_nil, lessonsOf, List.flatMap_nil, List.append_nil]
      exact h
  | cons turn turns ih =>
      rw [List.mem_cons, not_or] at hturns
      rw [lessonsOf_filterMap_cons, ← List.append_assoc]
      exact ih (h.take hsound (Ne.symm hturns.1)) (hsound.take turn) hturns.2

end Session

end PrimeReasoner
