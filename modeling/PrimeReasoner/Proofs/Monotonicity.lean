import PrimeReasoner.Proofs.Derivability
import PrimeReasoner.Proofs.Session

/-!
# Learning more

Whatever can be derived can still be derived when more has been learned: the numbers of what is stored
keep their meaning while the table grows, so every way to a goal stays a way to it (`Store.Grows.derives`).

**The answers are not monotone**, though.  A new fact may lead the search further into an implication that
fails in the end, and what was established on the way there is refused when it is asked for again
(`no_after_learning`).

**Strays.**  That is the only obstacle.  A question that was answered with yes is answered with yes again,
unless the search is cut off or refuses a stray that could have been derived (`yes_after_learning`).
Circles in what has been learned do not matter.
-/

namespace PrimeReasoner

namespace Session

/-- The goals that the search for a question refuses because it has met them before, although it is not
working on them. -/
def strays (session : Session) (question : String) : List Fact :=
  match Sentence.question? question.toList, session.engine.depthBound with
  | some goal, .ok limit =>
    ((session.store.knowledge.graph (session.store.encoder.ready goal)).search limit
      session.engine.machine.levels 0 [] goal {}).2.strays
  | _, _ => []

variable {session : Session} {limit : Int} {question : String} {goal : Fact}

/-- The search for a question, on the graph of what is stored once it has been asked. -/
lemma Sound.ask_graph (h : session.Sound limit)
    (hgoal : Sentence.question? question.toList = some goal) :
    let store := (session.ask question).2.store
    store.encoder.Knows goal.concepts ∧
      store.knowledge.graph store.encoder =
        session.store.knowledge.graph (session.store.encoder.ready goal) := by
  obtain ⟨-, -, -, hknowledge, hsame⟩ := h.ask_of_some hgoal
  obtain ⟨-, -, hknows, -⟩ := h.store.encoder.ready (Sentence.question?_isComplete hgoal)
  refine ⟨hknows.grows hsame.grows, ?_⟩
  rw [hknowledge, Knowledge.graph_congr hsame]

/-- A question that is answered with yes can be derived. -/
lemma Sound.derives_of_yes (h : session.Sound limit) {answer : Answer}
    (hask : (session.ask question).1 = .ok answer) (hyes : answer.reply = .yes) :
    ∃ goal, Sentence.question? question.toList = some goal ∧
      ((session.ask question).2.store.knowledge.graph
        (session.ask question).2.store.encoder).Derives goal := by
  cases hgoal : Sentence.question? question.toList with
  | none =>
      rw [Session.ask, hgoal] at hask
      obtain rfl := Except.ok.inj hask
      simp [Answer.reply] at hyes
  | some goal =>
      refine ⟨goal, rfl, ?_⟩
      rw [(h.ask_graph hgoal).2]
      obtain ⟨hresult, -⟩ := h.ask_of_some hgoal
      rw [hresult] at hask
      obtain rfl := Except.ok.inj hask
      have hholds : ((session.store.knowledge.graph
          (session.store.encoder.ready goal)).answer limit session.engine.machine.levels
            goal).1.holds = true := by
        by_contra hno
        simp [Answer.reply, hno] at hyes
      exact Graph.derives_of_answer hholds

/-- A question that can be derived is answered with yes, if the search is not cut off and refuses no
stray that can be derived. -/
lemma Sound.yes_of_derives (h : session.Sound limit)
    (hgoal : Sentence.question? question.toList = some goal)
    (hderives : ((session.ask question).2.store.knowledge.graph
      (session.ask question).2.store.encoder).Derives goal)
    (hcutoffs : (session.ask question).2.engine.statistics.effort.cutoffs =
      session.engine.statistics.effort.cutoffs)
    (hstrays : ∀ stray ∈ session.strays question,
      ¬ (session.ask question).2.store.Derivable stray) :
    ∃ answer, (session.ask question).1 = .ok answer ∧ answer.reply = .yes := by
  obtain ⟨hresult, hengine, -, -, -⟩ := h.ask_of_some hgoal
  obtain ⟨hknows, hgraph⟩ := h.ask_graph hgoal
  have hstore := (h.ask question).2.1.store
  refine ⟨_, hresult, ?_⟩
  cases hverdict : ((session.store.knowledge.graph
      (session.store.encoder.ready goal)).answer limit session.engine.machine.levels goal).1 with
  | proved derivation => simp [Answer.reply, Verdict.holds]
  | refused reason =>
      exfalso
      rw [strays, hgoal, h.limit] at hstrays
      dsimp only at hstrays
      rw [hengine, Engine.cutoffs_after] at hcutoffs
      rw [← hgraph] at hverdict hcutoffs hstrays
      refine Graph.not_derives_of_answer
        (fun goal hgoal way hway => hstore.fits.knows_premises hstore.encoder hgoal hway) hknows hverdict
        hcutoffs (fun stray hstray hdomain hderives => ?_) hderives
      exact hstrays stray hstray (hstore.derivable_of_derives hdomain hderives)

end Session

/-- **Learning is monotone, strays aside.**  After any turns of a session whose depth limit is an integer or
the default, a question is answered with yes, a text is learned, and the question is asked again.  If this
search is not cut off, and no goal that it refuses as met before, other than those it is working on, can be
derived, then the answer is still yes. -/
theorem yes_after_learning {machine : Machine} {config : Config} {session : Session}
    (hdepth : config.maxDepth = .null ∨ ∃ m, config.maxDepth = .int m)
    (hsession : Session.ofConfig machine config = .ok session) (turns : List Session.Turn)
    {question text : String} {first second : Session} (hfirst : first = session.takeAll turns)
    (hsecond : second = ((first.ask question).2.learn text).2) {answer : Answer}
    (hask : (first.ask question).1 = .ok answer) (hyes : answer.reply = .yes)
    (hcutoffs : (second.ask question).2.engine.statistics.effort.cutoffs =
      second.engine.statistics.effort.cutoffs)
    (hstrays : ∀ stray ∈ second.strays question, ¬ (second.ask question).2.store.Derivable stray) :
    ∃ answer, (second.ask question).1 = .ok answer ∧ answer.reply = .yes := by
  obtain ⟨limit, hsound⟩ := Session.sound_ofConfig hdepth hsession
  have hsoundFirst : first.Sound limit := hfirst ▸ hsound.takeAll turns
  obtain ⟨-, hasked, -⟩ := hsoundFirst.ask question
  obtain ⟨-, hlearned, hgrows⟩ := hasked.learn text
  rw [← hsecond] at hlearned hgrows
  obtain ⟨-, hlast, hgrows'⟩ := hlearned.ask question
  obtain ⟨goal, hgoal, hderives⟩ := hsoundFirst.derives_of_yes hask hyes
  have hstill := (hgrows.trans hgrows').derives hasked.store hlast.store
    (hsoundFirst.ask_graph hgoal).1 hderives
  exact hlearned.yes_of_derives hgoal hstill hcutoffs hstrays

/-- A session that has learned a circle and a way around it. -/
def circleLearned : Session := (Session.start .usual { sieveLimit := .int 0 } 0).takeAll
  [.learn "all b are b.a is c.c is b"]

/-- The same session when it has been asked and has learned more. -/
def circleExtended : Session := ((circleLearned.ask "is a b").2.learn "d is b").2

theorem yes_around_circle :
    (∃ answer, (circleLearned.ask "is a b").1 = .ok answer ∧ answer.reply = .yes) ∧
    (circleExtended.ask "is a b").2.engine.statistics.effort.cycles ≠
      circleExtended.engine.statistics.effort.cycles ∧
    ∃ answer, (circleExtended.ask "is a b").1 = .ok answer ∧ answer.reply = .yes := by
  obtain ⟨hreply, hcutoffs, hcycles, hstrays⟩ :
      (circleLearned.ask "is a b").1.toOption.map Answer.reply = some .yes ∧
      (circleExtended.ask "is a b").2.engine.statistics.effort.cutoffs =
        circleExtended.engine.statistics.effort.cutoffs ∧
      (circleExtended.ask "is a b").2.engine.statistics.effort.cycles ≠
        circleExtended.engine.statistics.effort.cycles ∧
      circleExtended.strays "is a b" = [] := by decide +kernel
  have hsession : Session.ofConfig .usual { sieveLimit := .int 0 } =
      .ok (Session.start .usual { sieveLimit := .int 0 } 0) := rfl
  obtain ⟨answer, hask, hyes⟩ := exists_ok_of_toOption hreply
  exact ⟨⟨answer, hask, hyes⟩, hcycles, yes_after_learning (.inl rfl) hsession
    [.learn "all b are b.a is c.c is b"] rfl rfl hask hyes hcutoffs (by simp [hstrays])⟩

/-- A session that has learned two implications to the same conclusion; the only condition of the second one
is stored, and it is also the second of three conditions of the first one. -/
def implicationsLearned : Session := (Session.start .usual { sieveLimit := .int 0 } 0).takeAll
  [.learn "c is d.if a is b and c is d and e is f then g is h.if c is d then g is h"]

/-- The same session when it has been asked and has learned the first condition of the first one. -/
def implicationsExtended : Session := ((implicationsLearned.ask "is g h").2.learn "a is b").2

/-- **Learning is not monotone.**  The first implication now gets as far as its third condition.  The second
one then finds its condition refused, because that has been established before. -/
theorem no_after_learning :
    Session.ofConfig .usual { sieveLimit := .int 0 } = .ok (Session.start .usual { sieveLimit := .int 0 } 0) ∧
    (implicationsLearned.ask "is g h").1.toOption.map Answer.reply = some .yes ∧
    (implicationsLearned.ask "is g h").2.engine.statistics.effort.cutoffs =
      implicationsLearned.engine.statistics.effort.cutoffs ∧
    (implicationsExtended.ask "is g h").1.toOption.map Answer.reply = some .no ∧
    (implicationsExtended.ask "is g h").2.engine.statistics.effort.cutoffs =
      implicationsExtended.engine.statistics.effort.cutoffs := by
  refine ⟨rfl, ?_⟩
  decide +kernel

end PrimeReasoner
