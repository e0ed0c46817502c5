import PrimeReasoner.Proofs.AppendOnly
import PrimeReasoner.Proofs.Pieces

/-!
# The books of a session

The counters of a session stand in three places: the tally is kept by the session, what was learned is in the store,
and the deductions are counted by the engine.  They agree after every turn, whatever the depth limit is set to
(`books_balance`).

**Learning** never fails (`Session.learn_eq`), and each lesson is counted where it is stored (`Session.Learns`).

**Asking** may fail if the depth limit is no number.  Then neither the session nor the engine counts the question
(`Session.ask_cases`).
-/

namespace PrimeReasoner

/-! ## Reports -/

/-- Does the line report that a fact was added? -/
def reportsFact (line : String) : Bool := "Added fact: ".toList.isPrefixOf line.toList

/-- Does the line report that a rule was added? -/
def reportsRule (line : String) : Bool := "Added rule: ".toList.isPrefixOf line.toList

namespace Lesson

lemma line_rule (added : Rule) : (rule added).line = "Added rule: " ++ added.text := rfl

lemma line_fact (added : Fact) : (fact added).line = "Added fact: " ++ added.text := rfl

lemma line_rejected (text : String) : (rejected text).line = "Failed to parse: \"" ++ text ++ "\"" := rfl

lemma reportsFact_line (lesson : Lesson) : reportsFact lesson.line = lesson.fact?.isSome := by
  cases lesson with
  | rule added => simp [reportsFact, line_rule, fact?, List.isPrefixOf]
  | fact added => simp [reportsFact, line_fact, fact?, List.isPrefixOf]
  | rejected text => simp [reportsFact, line_rejected, fact?, List.isPrefixOf]

lemma reportsRule_line (lesson : Lesson) : reportsRule lesson.line = lesson.rule?.isSome := by
  cases lesson with
  | rule added => simp [reportsRule, line_rule, rule?, List.isPrefixOf]
  | fact added => simp [reportsRule, line_fact, rule?, List.isPrefixOf]
  | rejected text => simp [reportsRule, line_rejected, rule?, List.isPrefixOf]

lemma filter_reportsFact (lessons : List Lesson) :
    (lessons.map line).filter reportsFact =
      (lessons.filterMap fact?).map fun fact => "Added fact: " ++ fact.text := by
  induction lessons with
  | nil => rfl
  | cons lesson lessons ih =>
      rw [List.map_cons, List.filter_cons, reportsFact_line, List.filterMap_cons, ih]
      cases lesson <;> rfl

lemma filter_reportsRule (lessons : List Lesson) :
    (lessons.map line).filter reportsRule =
      (lessons.filterMap rule?).map fun rule => "Added rule: " ++ rule.text := by
  induction lessons with
  | nil => rfl
  | cons lesson lessons ih =>
      rw [List.map_cons, List.filter_cons, reportsRule_line, List.filterMap_cons, ih]
      cases lesson <;> rfl

/-- What is said in a text: the pieces that are not blank. -/
lemma readAll_eq (text : String) : readAll text =
    ((Sentence.sentences text.toList).filter fun piece => piece.any fun c => !Text.isBlank c).map read := by
  rw [readAll, Sentence.statements]
  simp only [Sentence.not_isEmpty_trim]

end Lesson

/-! ## Learning -/

lemma Tally.countAll (tally : Tally) (lessons : List Lesson) :
    lessons.foldl Tally.count tally = { tally with
      learned := tally.learned + (lessons.filterMap Lesson.fact?).length +
        (lessons.filterMap Lesson.rule?).length
      rejected := (lessons.foldl Tally.count tally).rejected } ∧
    (lessons.foldl Tally.count tally).learned + (lessons.foldl Tally.count tally).rejected =
      tally.learned + tally.rejected + lessons.length := by
  induction lessons generalizing tally with
  | nil => exact ⟨rfl, rfl⟩
  | cons lesson lessons ih =>
      obtain ⟨htally, htotal⟩ := ih (tally.count lesson)
      rw [List.foldl_cons, List.filterMap_cons, List.filterMap_cons, List.length_cons]
      refine ⟨htally.trans ?_, htotal.trans ?_⟩
      · cases lesson <;> simp [Tally.count, Lesson.fact?, Lesson.rule?] <;> omega
      · cases lesson <;> simp [Tally.count] <;> omega

namespace Store

variable {store : Store}

/-- **What lessons add to the contents**: their facts, and the code of each of their rules. -/
lemma Sound.added_teachAll (h : store.Sound) {lessons : List Lesson}
    (hlessons : ∀ lesson ∈ lessons, lesson.IsComplete) :
    (lessons.foldl Store.teach store).knowledge.facts =
      store.knowledge.facts ++ lessons.filterMap Lesson.fact? ∧
    ∃ added, (lessons.foldl Store.teach store).knowledge.rules = store.knowledge.rules ++ added ∧
      List.Forall₂ (lessons.foldl Store.teach store).encoder.Represents (lessons.filterMap Lesson.rule?) added := by
  obtain ⟨rules, hrecords⟩ := h.exists_records
  have hlater := hrecords.teachAll h hlessons
  obtain ⟨added, hadded⟩ := (h.teachAll lessons).2.rules
  have hnew := hlater.rules
  rw [← hadded] at hnew
  have hdropped := List.forall₂_drop_append _ _ _ hnew
  rw [← hrecords.rules.length_eq, List.drop_left] at hdropped
  exact ⟨hlater.facts, added, hadded.symm, hdropped⟩

end Store

namespace Session

variable {session later : Session}

/-- **What is learned from a text.**  The text is cut in the one way there is, and there is a lesson for each piece
that is not blank.  The facts of the lessons are added, and a code for each of their rules; a lesson is either
learned or rejected. -/
structure Learns (session : Session) (text : String) (lessons : List Lesson) (later : Session) : Prop where
  pieces : ∃ pieces, (∀ others, Sentence.Cut text.toList others ↔ others = pieces) ∧
    lessons = (pieces.filter fun piece => piece.any fun c => !Text.isBlank c).map Lesson.read
  facts : later.store.knowledge.facts = session.store.knowledge.facts ++ lessons.filterMap Lesson.fact?
  factLines : (lessons.map Lesson.line).filter reportsFact =
    (lessons.filterMap Lesson.fact?).map fun fact => "Added fact: " ++ fact.text
  rules : ∃ added, later.store.knowledge.rules = session.store.knowledge.rules ++ added ∧
    List.Forall₂ later.store.encoder.Represents (lessons.filterMap Lesson.rule?) added
  ruleLines : (lessons.map Lesson.line).filter reportsRule =
    (lessons.filterMap Lesson.rule?).map fun rule => "Added rule: " ++ rule.text
  counted : later.tally.learned + later.tally.rejected =
    session.tally.learned + session.tally.rejected + (lessons.map Lesson.line).length
  silent : lessons.map Lesson.line = [] ↔
    ∀ c ∈ text.toList, Text.isBlank c = true ∨ c ∈ ['.', '!', '?']

lemma learns_learn (h : session.store.Sound) (text : String) :
    ∃ lessons later, session.learn text = (.ok lessons, later) ∧ session.Learns text lessons later := by
  obtain ⟨hfacts, hrules⟩ := h.added_teachAll (Lesson.readAll_isComplete text)
  obtain ⟨-, hcounted⟩ := session.tally.countAll (Lesson.readAll text)
  refine ⟨_, _, learn_eq h text, ?_⟩
  constructor
  case pieces => exact ⟨_, fun others => Sentence.cut_iff, Lesson.readAll_eq text⟩
  case facts => exact hfacts
  case factLines => exact Lesson.filter_reportsFact _
  case rules => exact hrules
  case ruleLines => exact Lesson.filter_reportsRule _
  case counted => rwa [List.length_map]
  case silent =>
    rw [List.map_eq_nil_iff, Lesson.readAll, List.map_eq_nil_iff, Sentence.statements_eq_nil_iff]
    simp only [Sentence.isSeparator, List.contains_iff_mem]

end Session

/-! ## The counters -/

namespace Session

variable {session : Session} {yes : ℕ}

/-- The reply that is given in a turn, if it is a question that gets one. -/
def replyTo? (session : Session) : Turn → Option Reply
  | .ask question => (session.ask question).1.toOption.map Answer.reply
  | _ => none

/-- The replies that are given in several turns, in order. -/
def repliesTo (session : Session) : List Turn → List Reply
  | [] => []
  | turn :: turns => (session.replyTo? turn).toList ++ (session.take turn).repliesTo turns

/-- **The counters agree** with what is stored and with what was answered, of which so much was yes. -/
structure Balanced (session : Session) (yes : ℕ) : Prop where
  learned : session.tally.learned = session.store.knowledge.facts.length + session.store.knowledge.rules.length
  queries : session.tally.queries = session.tally.unparsed + session.engine.statistics.deductions
  successes : session.engine.statistics.successes = yes

lemma balanced_start (machine : Machine) (config : Config) (bound : Int) :
    (start machine config bound).Balanced 0 := ⟨rfl, rfl, rfl⟩

lemma Balanced.teach (h : session.Balanced yes) (hsound : session.store.Sound) {lessons : List Lesson}
    (hlessons : ∀ lesson ∈ lessons, lesson.IsComplete) : (session.teach lessons).Balanced yes := by
  obtain ⟨hfacts, added, hrules, hadded⟩ := hsound.added_teachAll hlessons
  obtain ⟨htally, -⟩ := session.tally.countAll lessons
  constructor
  case learned =>
    have hlearned := h.learned
    have hlength := hadded.length_eq
    rw [Session.teach, hfacts, hrules, htally]
    simp only [List.length_append]
    omega
  case queries =>
    rw [Session.teach, htally]
    exact h.queries
  case successes => exact h.successes

lemma Balanced.ask (h : session.Balanced yes) (question : String) :
    (session.ask question).2.Balanced (yes + (session.replyTo? (.ask question)).toList.count .yes) := by
  rw [replyTo?]
  rcases session.ask_cases question with hask | ⟨goal, verdict, effort, encoder, hask⟩ | ⟨error, encoder, hask⟩
  · rw [hask]
    have hqueries := h.queries
    exact ⟨h.learned, by dsimp only; omega, h.successes⟩
  · rw [hask]
    have hqueries := h.queries
    refine ⟨h.learned, by simp only [Statistics.record]; omega, ?_⟩
    have hsuccesses := h.successes
    by_cases hholds : verdict.holds = true
    · simp [Statistics.record, Except.toOption, Answer.reply, hholds, hsuccesses]
    · simp [Statistics.record, Except.toOption, Answer.reply, hholds, hsuccesses]
  · rw [hask]
    exact ⟨h.learned, h.queries, h.successes⟩

/-- **One turn**, other than a fresh start, keeps the counters in agreement. -/
lemma Balanced.take (h : session.Balanced yes) (hsound : session.store.Sound) {turn : Turn}
    (hturn : turn ≠ .reset) :
    (session.take turn).Balanced (yes + (session.replyTo? turn).toList.count .yes) := by
  cases turn with
  | learn text =>
      rw [Session.take, learn_eq hsound]
      exact h.teach hsound (Lesson.readAll_isComplete text)
  | ask question => exact h.ask question
  | summarise =>
      obtain ⟨texts, encoder, hsummary, -⟩ := exists_summary hsound
      rw [Session.take, hsummary]
      exact ⟨h.learned, h.queries, h.successes⟩
  | reset => exact absurd rfl hturn

/-- **A run of turns**, by induction from the first one. -/
lemma Balanced.takeAll (h : session.Balanced yes) (hsound : session.store.Sound) {turns : List Turn}
    (hturns : Turn.reset ∉ turns) :
    (session.takeAll turns).Balanced (yes + (session.repliesTo turns).count .yes) := by
  induction turns generalizing session yes with
  | nil => exact h
  | cons turn turns ih =>
      rw [List.mem_cons, not_or] at hturns
      have hlater := ih (h.take hsound (Ne.symm hturns.1)) (sound_take hsound turn) hturns.2
      rwa [Nat.add_assoc, ← List.count_append] at hlater

end Session

/-- **The books of a session balance.**  However a session is configured, and whatever it is told and asked, the
sentences learned are the facts and rules stored, each query was not understood or was a deduction, and the successful
deductions are the answers with yes.  Any text can be learned then, with a line for each of its pieces that is not
blank. -/
theorem books_balance {machine : Machine} {config : Config} {session : Session}
    (hsession : Session.ofConfig machine config = .ok session) {turns : List Session.Turn}
    (hturns : Session.Turn.reset ∉ turns) :
    let later := session.takeAll turns
    later.figures.tally.learned = later.figures.facts + later.figures.rules ∧
    later.figures.tally.queries = later.figures.tally.unparsed + later.figures.reasoning.deductions ∧
    later.figures.reasoning.successes = (session.repliesTo turns).count .yes ∧
    ∀ text, ∃ lessons taught, later.learn text = (.ok lessons, taught) ∧ later.Learns text lessons taught := by
  intro later
  obtain ⟨bound, rfl⟩ := Session.eq_start_of_ofConfig hsession
  have hstart : (Session.start machine config bound).store.Sound := Store.sound_fresh bound []
  have hbalanced := (Session.balanced_start machine config bound).takeAll hstart hturns
  rw [Nat.zero_add] at hbalanced
  refine ⟨hbalanced.learned, hbalanced.queries, hbalanced.successes, ?_⟩
  intro text
  exact Session.learns_learn (Session.sound_takeAll hstart turns) text

/-- A session whose depth limit is no number. -/
def deepSession : Session := Session.start .usual { maxDepth := .scalar (.text "deep") } 1000

/-- A fact, a sentence of no known form, a question that fails, and one that is not understood. -/
def deepTurns : List Session.Turn := [.learn "A is b. Hm", .ask "Is a b?", .ask "Why?"]

theorem books_balance_despite_failure :
    Session.ofConfig .usual { maxDepth := .scalar (.text "deep") } = .ok deepSession ∧
    Session.Turn.reset ∉ deepTurns ∧
    (deepSession.takeAll deepTurns).figures.tally.learned = 1 ∧
    (deepSession.takeAll deepTurns).figures.tally.queries =
      (deepSession.takeAll deepTurns).figures.tally.unparsed ∧
    (deepSession.takeAll deepTurns).figures.reasoning.successes = 0 ∧
    ∃ lessons taught, (deepSession.takeAll deepTurns).learn "C is d!" = (.ok lessons, taught) ∧
      (deepSession.takeAll deepTurns).Learns "C is d!" lessons taught := by
  have hsession : Session.ofConfig .usual { maxDepth := .scalar (.text "deep") } = .ok deepSession := by rfl
  have hturns : Session.Turn.reset ∉ deepTurns := by simp [deepTurns]
  obtain ⟨hfacts, hrules, hdeductions, hreplies⟩ : (deepSession.takeAll deepTurns).figures.facts = 1 ∧
      (deepSession.takeAll deepTurns).figures.rules = 0 ∧
      (deepSession.takeAll deepTurns).figures.reasoning.deductions = 0 ∧
      deepSession.repliesTo deepTurns = [.unknown] := by decide +kernel
  obtain ⟨hlearned, hqueries, hsuccesses, hlearn⟩ := books_balance hsession hturns
  refine ⟨hsession, hturns, ?_, ?_, ?_, hlearn "C is d!"⟩
  · rw [hlearned, hfacts, hrules]
  · rw [hqueries, hdeductions, Nat.add_zero]
  · rw [hsuccesses, hreplies]
    rfl

end PrimeReasoner
