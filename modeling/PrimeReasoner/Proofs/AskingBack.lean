import PrimeReasoner.Proofs.Derivability
import PrimeReasoner.Proofs.Reading
import PrimeReasoner.Proofs.Session

/-!
# What is learned can be asked back

A fact that has been learned stays stored under its number, and a question about it is answered before any rule
is tried.  So whatever else a session has learned, and whatever it learns and is asked later on, a question that
matches a statement is answered with yes, and the justification is the learned fact itself
(`answered_with_learned_fact`).

**Held facts.**  `Store.Holds` says that a fact is stored under the number that the table has for it.  It remains
so while the store grows (`Store.Holds.grows`), and a session whose depth limit is not below zero gives the direct
answer (`Session.Sound.ask_of_holds`).
-/

namespace PrimeReasoner

/-! ## Depth limits -/

/-- A limit that is not below zero leaves the first level within reach. -/
lemma Engine.deepestWithin_nonneg {levels : ℕ} {limit : Number} (h : limit.isBelow 0 = false) :
    0 ≤ deepestWithin levels limit := by
  rcases limit with m | (_ | ⟨_ | _⟩ | _)
  · simpa [Number.isBelow, deepestWithin] using h
  · simpa [Number.isBelow, Double.isBelow, deepestWithin, Double.floor?] using h
  · exact Int.natCast_nonneg levels
  · simp [Number.isBelow, Double.isBelow] at h
  · exact Int.natCast_nonneg levels

/-- A configured number is the limit in force. -/
lemma Engine.depthLimit_eq {engine : Engine} {limit : Number} (h : engine.maxDepth.number? = some limit) :
    engine.depthLimit = engine.maxDepth := by
  unfold depthLimit
  split
  · next hnull =>
      rw [hnull] at h
      simp [Setting.number?, Scalar.number?] at h
  · rfl

/-- A session that may at least look at the question itself. -/
lemma Session.sound_of_not_isBelow {machine : Machine} {config : Config} {session : Session}
    (hdepth : config.maxDepth = .null ∨
      ∃ limit, config.maxDepth.number? = some limit ∧ limit.isBelow 0 = false)
    (hsession : Session.ofConfig machine config = .ok session) : ∃ limit, session.Sound limit ∧ 0 ≤ limit := by
  rcases hdepth with hnull | ⟨limit, hlimit, hbelow⟩
  · exact ⟨Engine.defaultDepth, sound_of_depthBound hsession (by rw [hnull]; rfl), by decide⟩
  · refine ⟨Engine.deepestWithin machine.levels limit, sound_of_depthBound hsession (Engine.depthBound_eq_ok ?_),
      Engine.deepestWithin_nonneg hbelow⟩
    rw [Engine.depthLimit_eq hlimit, hlimit]

/-! ## Held facts -/

/-- A goal that is held is not looked for any further. -/
lemma Graph.answer_of_holds {graph : Graph} {limit : Int} {levels : ℕ} {goal : Fact}
    (hholds : graph.holds (graph.code goal) = true) (hlimit : 0 ≤ limit) :
    (graph.answer limit (levels + 1) goal).1 = .proved (.direct goal) := by
  have hdepth : ¬ limit < ((0 : ℕ) : Int) := by simpa using hlimit
  rw [answer, search, if_neg List.not_mem_nil, if_neg hdepth, if_pos hholds]

namespace Store

/-- **The fact is stored** under the number that the table has for it. -/
structure Holds (store : Store) (fact : Fact) : Prop where
  knows : store.encoder.Knows fact.concepts
  stored : store.knowledge.holds (store.encoder.code fact) = true

variable {store later : Store} {fact : Fact}

lemma Holds.grows (h : store.Holds fact) (hstore : store.Sound) (hlater : later.Sound)
    (hgrows : store.Grows later) : later.Holds fact := by
  refine ⟨h.knows.grows hgrows.encoder, ?_⟩
  have hstored := h.stored
  rw [Knowledge.holds, List.contains_iff_mem] at hstored ⊢
  rw [hstore.encoder.code_grows hlater.encoder hgrows.encoder h.knows]
  exact hgrows.encodings.subset hstored

lemma Sound.holds_addFact (h : store.Sound) (hfact : fact.IsComplete) : (store.addFact fact).2.Holds fact := by
  obtain ⟨n, later, hrun⟩ := (Encoder.asks_encodeFact fact).exists_ok h.encoder hfact
  obtain ⟨-, hlater, hknows, hcode⟩ := (Encoder.asks_encodeFact fact).knows h.encoder hrun
  have hn : later.code fact = n := by simp [Encoder.code, hcode later hlater (Encoder.Grows.refl later)]
  rw [Store.addFact, hrun]
  exact ⟨hknows, by simp [Knowledge.holds, Knowledge.withFact, hn]⟩

end Store

namespace Session

variable {session : Session} {limit : Int} {fact : Fact}

lemma Sound.holds_learn (h : session.Sound limit) {text : String} (hread : Lesson.readAll text = [.fact fact]) :
    (session.learn text).2.store.Holds fact := by
  have hcomplete : fact.IsComplete := Lesson.readAll_isComplete text (.fact fact) (by simp [hread])
  have hholds := h.store.holds_addFact hcomplete
  rw [learn_eq h.store, hread, store_teach, List.foldl_cons, List.foldl_nil, Store.teach]
  exact hholds

lemma Sound.grows_summary (h : session.Sound limit) : session.store.Grows session.summary.2.store := by
  obtain ⟨texts, later, hsummary, hsame, -, -⟩ := exists_summary h.store
  rw [hsummary]
  exact (h.store.withEncoder hsame.sound hsame.grows).2

/-- **Nothing is lost** in a turn other than a fresh start. -/
lemma Sound.grows_take (h : session.Sound limit) {turn : Turn} (hturn : turn ≠ .reset) :
    session.store.Grows (session.take turn).store := by
  cases turn with
  | learn text =>
      rw [Session.take]
      exact (h.learn text).2.2
  | ask question =>
      rw [Session.take]
      exact (h.ask question).2.2
  | summarise => exact h.grows_summary
  | reset => exact absurd rfl hturn

lemma Sound.grows_takeAll (h : session.Sound limit) {turns : List Turn} (hturns : Turn.reset ∉ turns) :
    session.store.Grows (session.takeAll turns).store := by
  induction turns generalizing session with
  | nil => exact Store.Grows.refl _
  | cons turn turns ih =>
      rw [List.mem_cons, not_or] at hturns
      exact (h.grows_take (Ne.symm hturns.1)).trans (ih (h.take turn) hturns.2)

/-- **A held fact is answered directly.** -/
lemma Sound.ask_of_holds (h : session.Sound limit) (hlimit : 0 ≤ limit) {question : String}
    (hgoal : Sentence.question? question.toList = some fact) (hholds : session.store.Holds fact) :
    (session.ask question).1 = .ok ⟨question, some fact, some (.proved (.direct fact))⟩ := by
  obtain ⟨hresult, -⟩ := h.ask_of_some hgoal
  obtain ⟨levels, hlevels⟩ := session.engine.machine.exists_levels
  -- The table has the concepts already, so that the question does not change the graph.
  rw [hresult, hlevels, Knowledge.graph_congr (h.store.encoder.same_ready hholds.knows),
    Graph.answer_of_holds hholds.stored hlimit]

end Session

/-- **What is learned can be asked back.**  In a session whose depth limit is not below zero, after any turns, a
statement is learned as its fact.  From then on, until the session starts over, each question that matches the
statement is answered with yes, with the learned fact as the justification, in whatever letter case the two
are written. -/
theorem answered_with_learned_fact {machine : Machine} {config : Config} {session : Session}
    (hdepth : config.maxDepth = .null ∨
      ∃ limit, config.maxDepth.number? = some limit ∧ limit.isBelow 0 = false)
    (hsession : Session.ofConfig machine config = .ok session) (earlier : List Session.Turn)
    {x y : Phrase} {predicate statement question told asked : String}
    (hstatement : Statement x y predicate statement) (htold : told.toLower = statement.toLower)
    (hquestion : Question x y predicate question) (hasked : asked.toLower = question.toLower)
    (later : List Session.Turn) (hlater : Session.Turn.reset ∉ later) :
    ((session.takeAll earlier).learn told).1 = .ok [.fact (Fact.of x.text predicate y.text)] ∧
      ∃ answer, ((((session.takeAll earlier).learn told).2.takeAll later).ask asked).1 = .ok answer ∧
        answer.reply = .yes ∧
        answer.explanation =
          "Direct fact in knowledge base: " ++ (Fact.of x.text predicate y.text).text := by
  obtain ⟨limit, hsound, hlimit⟩ := Session.sound_of_not_isBelow hdepth hsession
  have hread := hstatement.readAll_eq htold
  have hreached := hsound.takeAll earlier
  obtain ⟨hresult, hlearned, -⟩ := hreached.learn told
  have hholds := (hreached.holds_learn hread).grows hlearned.store (hlearned.takeAll later).store
    (hlearned.grows_takeAll hlater)
  refine ⟨hresult.trans (by rw [hread]), _, (hlearned.takeAll later).ask_of_holds hlimit
    (hquestion.question?_eq hasked) hholds, rfl, rfl⟩

/-- A phrase of two words. -/
def frontWheel : Phrase := ⟨["Front", "wheel"], by simp, by decide, by decide +kernel⟩

/-- A phrase of one word. -/
def car : Phrase := ⟨["Car"], by simp, by decide, by decide +kernel⟩

theorem answered_with_learned_part :
    Session.ofConfig .usual {} = .ok (Session.start .usual {} 1000) ∧
    ∃ answer,
      (((((Session.start .usual {} 1000).takeAll [.learn "Car is wheel.", .ask "Is car front?"]).learn
        "the front wheel IS part of car.").2.takeAll [.summarise, .learn "All wheels are round."]).ask
          "is Front Wheel part of THE car?").1 = .ok answer ∧
      answer.reply = .yes ∧
      answer.explanation = "Direct fact in knowledge base: front wheel part of car" := by
  have hsession : Session.ofConfig .usual {} = .ok (Session.start .usual {} 1000) := by rfl
  have hstatement : Statement frontWheel car "part of" "The Front wheel is part of Car." :=
    .partOf (show "The " ∈ ["", "The "] by simp) (show "" ∈ ["", "the "] by simp)
  have hquestion : Question frontWheel car "part of" "Is Front wheel part of the Car?" :=
    .partOf (show "" ∈ ["", "the "] by simp) (show "the " ∈ ["", "the "] by simp)
  have htold : "the front wheel IS part of car.".toLower = "The Front wheel is part of Car.".toLower :=
    toLower_eq_toLower_iff.mpr (by decide)
  have hasked : "is Front Wheel part of THE car?".toLower = "Is Front wheel part of the Car?".toLower :=
    toLower_eq_toLower_iff.mpr (by decide)
  obtain ⟨-, answer, hanswer, hyes, hexplanation⟩ := answered_with_learned_fact (.inl rfl) hsession
    [.learn "Car is wheel.", .ask "Is car front?"] hstatement htold hquestion hasked
    [.summarise, .learn "All wheels are round."] (by simp)
  exact ⟨hsession, answer, hanswer, hyes, hexplanation.trans (by decide +kernel)⟩

end PrimeReasoner
