import PrimeReasoner.Proofs.Sentence
import PrimeReasoner.Proofs.Store
import PrimeReasoner.Session

/-!
# Sessions do not fail

A session is told texts and asked questions, arbitrary ones, in any order.  What a sentence teaches can be
encoded, and over a store in any state a deduction fails only if a concept of its question is blank, which
a question that was read never has.

**Whatever the depth limit**, a text is learned lesson by lesson (`Session.learn_eq`), a question is not
understood, answered or failed (`Session.ask_cases`, `Session.ask_fails_iff`), and a summary changes no concept
(`Session.exists_summary`).

**The invariant.**  In a sound session (`Session.Sound`) the store is sound and the configured depth limit
is a number.  Every turn keeps it and gives an answer (`Sound.learn`, `Sound.ask`), hence every run of
turns does (`Sound.takeAll`).

**The summary** has one phrase for each fact and one sentence for each rule, since the numbers of fitting
knowledge can all be read (`Store.run_describeAll`).

The two come together in `no_call_fails`.
-/

namespace PrimeReasoner

namespace Encoder

/-! ## Describing rules -/

lemma run_bind_eq {σ α β : Type} {m : StateM σ α} {state later : σ} {a : α}
    (h : m.run state = (a, later)) (next : α → StateM σ β) :
    (m >>= next).run state = (next a).run later := by
  rw [StateT.run_bind, h]
  rfl

lemma Sound.run_decodeFacts {encoder : Encoder} (h : encoder.Sound) (encodings : List Int) :
    ∃ later, (decodeFacts encodings).run encoder = (encodings.map encoder.fact?, later) ∧
      encoder.Same later := by
  induction encodings generalizing encoder with
  | nil => exact ⟨encoder, rfl, h.same⟩
  | cons encoding encodings ih =>
      obtain ⟨middle, hfirst, hmiddle⟩ := h.run_decodeFact encoding
      obtain ⟨later, hrest, hlater⟩ := ih hmiddle.sound
      refine ⟨later, ?_, hmiddle.trans hlater⟩
      rw [decodeFacts, run_bind_eq hfirst, run_bind_eq hrest, fact?_congr hmiddle]
      rfl

lemma quantifiedText_ne_unreadable (quantifier : Quantifier) (category property : String) :
    quantifiedText quantifier category property ≠ unreadableRule := by
  intro h
  have hhead := congrArg (fun text : String => text.toList.head?) h
  simp [quantifiedText, unreadableRule, toString] at hhead

lemma implicationText_ne_unreadable (conditions : List Fact) (conclusion : Fact) :
    implicationText conditions conclusion ≠ unreadableRule := by
  intro h
  have hhead := congrArg (fun text : String => text.toList.head?) h
  simp [implicationText, unreadableRule, toString] at hhead

lemma mapM_id_map_fact? {encoder : Encoder} (h : encoder.Sound) {encodings : List Int}
    (hnumbers : ∀ encoding ∈ encodings, encoder.Numbers encoding) :
    (encodings.map encoder.fact?).mapM id = some (encodings.filterMap encoder.fact?) := by
  induction encodings with
  | nil => rfl
  | cons encoding encodings ih =>
      obtain ⟨fact, hfact, -⟩ := h.fact?_of_numbers (hnumbers encoding List.mem_cons_self)
      have hrest := ih fun other hother => hnumbers other (List.mem_cons_of_mem encoding hother)
      simp [hfact, hrest]

/-- A rule whose numbers can be read is described by a sentence of its own. -/
lemma Sound.run_describe {encoder : Encoder} (h : encoder.Sound) {encoded : EncodedRule}
    (hreads : encoded.Reads encoder) :
    ∃ text later, (describe encoded).run encoder = (text, later) ∧ encoder.Same later ∧
      text ≠ unreadableRule := by
  cases encoded with
  | quantified quantifier _ c p _ _ _ =>
      exact ⟨_, encoder, rfl, h.same, quantifiedText_ne_unreadable quantifier _ _⟩
  | standard conditions conclusion =>
      obtain ⟨fact, hfact, -⟩ := h.fact?_of_numbers hreads.2
      obtain ⟨middle, hconditions, hmiddle⟩ := h.run_decodeFacts conditions
      obtain ⟨later, hconclusion, hlater⟩ := hmiddle.sound.run_decodeFact conclusion
      refine ⟨_, later, ?_, hmiddle.trans hlater,
        implicationText_ne_unreadable (conditions.filterMap encoder.fact?) fact⟩
      rw [describe, run_bind_eq hconditions, run_bind_eq hconclusion, fact?_congr hmiddle, hfact,
        mapM_id_map_fact? h hreads.1]
      rfl
  | unrecognised => exact hreads.elim

end Encoder

namespace Store

lemma run_describeAll {encoder : Encoder} (h : encoder.Sound) {rules : List EncodedRule}
    (hrules : ∀ rule ∈ rules, rule.Reads encoder) :
    ∃ texts later, (describeAll rules).run encoder = (texts, later) ∧ encoder.Same later ∧
      texts.length = rules.length ∧ unreadableRule ∉ texts := by
  induction rules generalizing encoder with
  | nil => exact ⟨[], encoder, rfl, h.same, rfl, by simp⟩
  | cons rule rules ih =>
      obtain ⟨text, middle, hfirst, hmiddle, hne⟩ := h.run_describe (hrules rule List.mem_cons_self)
      obtain ⟨texts, later, hrest, hlater, hlength, hmem⟩ := ih hmiddle.sound fun other hother =>
        (hrules other (List.mem_cons_of_mem rule hother)).same hmiddle
      refine ⟨text :: texts, later, ?_, hmiddle.trans hlater, by simp [hlength], ?_⟩
      · rw [describeAll, Encoder.run_bind_eq hfirst, Encoder.run_bind_eq hrest]
        rfl
      · rw [List.mem_cons, not_or]
        exact ⟨hne.symm, hmem⟩

/-! ## Adding what was read -/

lemma Sound.addFact_ok {store : Store} (h : store.Sound) {fact : Fact} (hfact : fact.IsComplete) :
    ∃ n later, store.addFact fact = (.ok n, later) := by
  obtain ⟨n, later, hrun⟩ := (Encoder.asks_encodeFact fact).exists_ok h.encoder hfact
  exact ⟨n, _, by rw [Store.addFact, hrun]⟩

lemma Sound.addRule_ok {store : Store} (h : store.Sound) {rule : Rule} (hrule : rule.IsComplete) :
    ∃ encoded later, store.addRule (.rule rule) = (.ok encoded, later) := by
  obtain ⟨encoded, later, hrun⟩ := (Encoder.asks_encodeRule rule).exists_ok h.encoder hrule
  exact ⟨encoded, _, by rw [Store.addRule, Encoder.encodeProposal, hrun]⟩

/-- **A deduction over a sound store** fails exactly if a concept of the question is blank. -/
theorem Sound.deduce_error_iff {store : Store} (h : store.Sound) {engine : Engine} {limit : Int}
    (hlimit : engine.depthBound = .ok limit) (goal : Fact) :
    (∃ error, (engine.deduce store.encoder store.knowledge goal).1 = .error error) ↔
      ¬ goal.IsComplete := by
  constructor
  · rintro ⟨error, herror⟩ hcomplete
    obtain ⟨later, -, hdeduce⟩ := h.fits.deduce h.encoder hcomplete hlimit
    rw [hdeduce] at herror
    simp at herror
  · intro hincomplete
    obtain ⟨error, herror, -⟩ :=
      Engine.deduce_of_not_isComplete h.encoder hincomplete engine store.knowledge
    exact ⟨_, herror⟩

end Store

/-! ## Lessons -/

/-- What a lesson teaches can be encoded. -/
def Lesson.IsComplete : Lesson → Prop
  | .rule added => added.IsComplete
  | .fact added => added.IsComplete
  | .rejected _ => True

lemma Lesson.read_isComplete (sentence : List Char) : (Lesson.read sentence).IsComplete := by
  unfold Lesson.read
  split
  · next hrule => exact Sentence.rule?_isComplete hrule
  · split
    · next hfact => exact Sentence.fact?_isComplete hfact
    · trivial

lemma Lesson.readAll_isComplete (text : String) : ∀ lesson ∈ Lesson.readAll text, lesson.IsComplete := by
  intro lesson hlesson
  obtain ⟨sentence, -, rfl⟩ := List.mem_map.mp hlesson
  exact Lesson.read_isComplete sentence

namespace Store

/-- The store after a lesson. -/
def teach (store : Store) : Lesson → Store
  | .rule added => (store.addRule (.rule added)).2
  | .fact added => (store.addFact added).2
  | .rejected _ => store

lemma Sound.teach {store : Store} (h : store.Sound) (lesson : Lesson) :
    (store.teach lesson).Sound ∧ store.Grows (store.teach lesson) := by
  cases lesson with
  | rule added => exact h.addRule (.rule added)
  | fact added => exact h.addFact added
  | rejected text => exact ⟨h, Grows.refl store⟩

lemma Sound.teachAll {store : Store} (h : store.Sound) (lessons : List Lesson) :
    (lessons.foldl Store.teach store).Sound ∧ store.Grows (lessons.foldl Store.teach store) := by
  induction lessons generalizing store with
  | nil => exact ⟨h, Grows.refl store⟩
  | cons lesson lessons ih =>
      obtain ⟨hsound, hgrows⟩ := h.teach lesson
      obtain ⟨hlast, hgrows'⟩ := ih hsound
      exact ⟨hlast, hgrows.trans hgrows'⟩

end Store

/-- The tally after a lesson. -/
def Tally.count (tally : Tally) : Lesson → Tally
  | .rejected _ => { tally with rejected := tally.rejected + 1 }
  | _ => { tally with learned := tally.learned + 1 }

namespace Session

/-- The session after some lessons, in order. -/
def teach (session : Session) (lessons : List Lesson) : Session :=
  { session with
    store := lessons.foldl Store.teach session.store
    tally := lessons.foldl Tally.count session.tally }

@[simp] lemma store_teach (session : Session) (lessons : List Lesson) :
    (session.teach lessons).store = lessons.foldl Store.teach session.store := rfl

lemma absorb_eq {session : Session} (h : session.store.Sound) {lesson : Lesson} (hlesson : lesson.IsComplete) :
    session.absorb lesson = (.ok (), session.teach [lesson]) := by
  cases lesson with
  | rule added =>
      obtain ⟨encoded, later, hadd⟩ := h.addRule_ok hlesson
      simp [Session.absorb, Session.teach, Store.teach, Tally.count, hadd]
  | fact added =>
      obtain ⟨n, later, hadd⟩ := h.addFact_ok hlesson
      simp [Session.absorb, Session.teach, Store.teach, Tally.count, hadd]
  | rejected text => rfl

lemma absorbAll_eq {session : Session} (h : session.store.Sound) {lessons : List Lesson}
    (hlessons : ∀ lesson ∈ lessons, lesson.IsComplete) :
    session.absorbAll lessons = (.ok (), session.teach lessons) := by
  induction lessons generalizing session with
  | nil => rfl
  | cons lesson lessons ih =>
      obtain ⟨hcomplete, hrest⟩ := List.forall_mem_cons.mp hlessons
      have hmiddle : (session.teach [lesson]).store.Sound := (h.teach lesson).1
      rw [Session.absorbAll, absorb_eq h hcomplete]
      dsimp only
      rw [ih hmiddle hrest]
      rfl

/-- **Learning a text** over a sound store never fails, and is learning its lessons. -/
theorem learn_eq {session : Session} (h : session.store.Sound) (text : String) :
    session.learn text = (.ok (Lesson.readAll text), session.teach (Lesson.readAll text)) := by
  rw [Session.learn, absorbAll_eq h (Lesson.readAll_isComplete text)]

/-! ## Questions and summaries -/

end Session

/-- **The account of a deduction.**  An answer is counted, and a failure is not. -/
lemma Engine.deduce_cases (engine : Engine) (encoder : Encoder) (knowledge : Knowledge) (goal : Fact) :
    (∃ verdict effort later, engine.deduce encoder knowledge goal =
      (.ok verdict, { engine with statistics := engine.statistics.record effort verdict }, later)) ∨
    ∃ error later, engine.deduce encoder knowledge goal = (.error error, engine, later) := by
  unfold Engine.deduce
  split
  · split
    · exact .inr ⟨_, _, rfl⟩
    · exact .inr ⟨_, _, rfl⟩
  · split
    · exact .inl ⟨_, _, _, rfl⟩
    · exact .inl ⟨_, _, _, rfl⟩
    · exact .inr ⟨_, _, rfl⟩

namespace Session

/-- **What a question changes**, whatever the depth limit: it is not understood, or it is answered, or its
deduction fails. -/
lemma ask_cases (session : Session) (question : String) :
    session.ask question = (.ok ⟨question, none, none⟩, { session with
      tally := { session.tally with
        queries := session.tally.queries + 1
        unparsed := session.tally.unparsed + 1 } }) ∨
    (∃ goal verdict effort encoder, session.ask question = (.ok ⟨question, some goal, some verdict⟩,
      { session with
        tally := { session.tally with queries := session.tally.queries + 1 }
        engine := { session.engine with statistics := session.engine.statistics.record effort verdict }
        store := { session.store with encoder } })) ∨
    ∃ error encoder, session.ask question =
      (.error error, { session with store := { session.store with encoder } }) := by
  unfold Session.ask
  split
  · exact .inl rfl
  · next goal _ =>
    unfold Session.deduce
    rcases session.engine.deduce_cases session.store.encoder session.store.knowledge goal with
      ⟨verdict, effort, encoder, hdeduce⟩ | ⟨error, encoder, hdeduce⟩
    · rw [hdeduce]
      exact .inr (.inl ⟨goal, verdict, effort, encoder, rfl⟩)
    · rw [hdeduce]
      exact .inr (.inr ⟨error, encoder, rfl⟩)

/-- A question is at most another deduction over the store. -/
lemma store_ask (session : Session) (question : String) :
    (session.ask question).2.store = session.store ∨ ∃ goal, (session.ask question).2.store =
      session.store.perform (.call (.deduce session.engine session.store.knowledge goal)) := by
  unfold Session.ask
  split
  · exact .inl rfl
  · next goal _ =>
    refine .inr ⟨goal, ?_⟩
    rw [Store.perform, Encoder.Call.run, Session.deduce]
    rcases session.engine.deduce session.store.encoder session.store.knowledge goal with
      ⟨error | verdict, engine, encoder⟩ <;> rfl

lemma sound_ask {session : Session} (h : session.store.Sound) (question : String) :
    (session.ask question).2.store.Sound ∧ session.store.Grows (session.ask question).2.store := by
  rcases session.store_ask question with hstore | ⟨goal, hstore⟩
  · rw [hstore]
    exact ⟨h, Store.Grows.refl _⟩
  · rw [hstore]
    exact h.perform _

/-- **A question fails** exactly if it is understood and the depth limit is no number. -/
lemma ask_fails_iff {session : Session} (h : session.store.Sound) (question : String) :
    (∃ error, (session.ask question).1 = .error error) ↔
      (Sentence.question? question.toList).isSome ∧ ∀ limit, session.engine.depthBound ≠ .ok limit := by
  cases hgoal : Sentence.question? question.toList with
  | none => simp [Session.ask, hgoal]
  | some goal =>
      rw [Session.ask, hgoal]
      dsimp only
      cases hbound : session.engine.depthBound with
      | ok limit =>
          obtain ⟨later, -, hdeduce⟩ := h.fits.deduce h.encoder (Sentence.question?_isComplete hgoal) hbound
          simp [Session.deduce, hdeduce]
      | error error =>
          have hfails : ∃ error, (session.deduce goal).1 = .error error := by
            rw [Session.deduce, Engine.deduce, hbound]
            dsimp only
            split <;> exact ⟨_, rfl⟩
          obtain ⟨error, herror⟩ := hfails
          rcases hrun : session.deduce goal with ⟨result, later⟩
          rw [hrun] at herror
          obtain rfl : result = .error error := herror
          simp

/-- **A summary** over a sound store has a sentence for each rule, and changes no concept. -/
lemma exists_summary {session : Session} (h : session.store.Sound) :
    ∃ texts encoder, session.summary = (⟨session.store.knowledge.factTexts, texts⟩,
        { session with store := { session.store with encoder } }) ∧
      session.store.encoder.Same encoder ∧ texts.length = session.store.knowledge.rules.length ∧
      unreadableRule ∉ texts := by
  obtain ⟨texts, later, hrun, hsame, hlength, hreadable⟩ :=
    Store.run_describeAll h.encoder fun rule hrule => h.fits.reads h.encoder hrule
  refine ⟨texts, later, ?_, hsame, hlength, hreadable⟩
  rw [Session.summary, Store.ruleTexts, hrun]

/-! ## Turns -/

/-- One use of a session. -/
inductive Turn where
  | learn (text : String)
  | ask (question : String)
  | summarise
  | reset

/-- The session after a turn. -/
def take (session : Session) : Turn → Session
  | .learn text => (session.learn text).2
  | .ask question => (session.ask question).2
  | .summarise => session.summary.2
  | .reset => session.reset

/-- The session after several turns, in order. -/
def takeAll (session : Session) (turns : List Turn) : Session := turns.foldl take session

lemma takeAll_cons (session : Session) (turn : Turn) (turns : List Turn) :
    session.takeAll (turn :: turns) = (session.take turn).takeAll turns := rfl

/-- **A turn** keeps the store sound, whatever the depth limit. -/
lemma sound_take {session : Session} (h : session.store.Sound) (turn : Turn) :
    (session.take turn).store.Sound := by
  cases turn with
  | learn text =>
      rw [take, learn_eq h, store_teach]
      exact (h.teachAll (Lesson.readAll text)).1
  | ask question =>
      rw [take]
      exact (sound_ask h question).1
  | summarise =>
      obtain ⟨texts, encoder, hsummary, hsame, -, -⟩ := exists_summary h
      rw [take, hsummary]
      exact (h.withEncoder hsame.sound hsame.grows).1
  | reset => exact Store.sound_fresh session.sieveBound []

/-- **A turn** changes neither an option nor the machine. -/
lemma configured_take {session : Session} (h : session.store.Sound)
    (hdepth : session.engine.maxDepth = session.config.maxDepth) (turn : Turn) :
    (session.take turn).config = session.config ∧
      (session.take turn).engine.maxDepth = session.config.maxDepth ∧
      (session.take turn).engine.machine = session.engine.machine := by
  cases turn with
  | learn text =>
      rw [take, learn_eq h]
      exact ⟨rfl, hdepth, rfl⟩
  | ask question =>
      rw [take]
      rcases session.ask_cases question with hask | ⟨_, _, _, _, hask⟩ | ⟨_, _, hask⟩
      all_goals rw [hask]; exact ⟨rfl, hdepth, rfl⟩
  | summarise =>
      obtain ⟨texts, encoder, hsummary, -⟩ := exists_summary h
      rw [take, hsummary]
      exact ⟨rfl, hdepth, rfl⟩
  | reset => exact ⟨rfl, rfl, rfl⟩

lemma configured_takeAll {session : Session} (h : session.store.Sound)
    (hdepth : session.engine.maxDepth = session.config.maxDepth) (turns : List Turn) :
    (session.takeAll turns).config = session.config ∧
      (session.takeAll turns).engine.maxDepth = session.config.maxDepth ∧
      (session.takeAll turns).engine.machine = session.engine.machine := by
  induction turns generalizing session with
  | nil => exact ⟨rfl, hdepth, rfl⟩
  | cons turn turns ih =>
      obtain ⟨hconfig, hengine, hmachine⟩ := configured_take h hdepth turn
      obtain ⟨hlater, hlast, hlater'⟩ := ih (sound_take h turn) (by rw [hengine, hconfig])
      exact ⟨hlater.trans hconfig, by rw [takeAll_cons, hlast, hconfig], hlater'.trans hmachine⟩

lemma sound_takeAll {session : Session} (h : session.store.Sound) (turns : List Turn) :
    (session.takeAll turns).store.Sound := by
  induction turns generalizing session with
  | nil => exact h
  | cons turn turns ih => exact ih (sound_take h turn)

/-- **The store is sound, and the depth limit is a number**, which is the configured one. -/
structure Sound (session : Session) (limit : Int) : Prop where
  store : session.store.Sound
  limit : session.engine.depthBound = .ok limit
  configured : session.engine.maxDepth = session.config.maxDepth

variable {session : Session} {limit : Int}

/-- **Learning** gives one lesson for each sentence, and loses nothing. -/
lemma Sound.learn (h : session.Sound limit) (text : String) :
    (session.learn text).1 = .ok (Lesson.readAll text) ∧ (session.learn text).2.Sound limit ∧
      session.store.Grows (session.learn text).2.store := by
  obtain ⟨hsound, hgrows⟩ := h.store.teachAll (Lesson.readAll text)
  rw [learn_eq h.store]
  exact ⟨rfl, ⟨hsound, h.limit, h.configured⟩, hgrows⟩

/-- A question that was read is answered by a search on the graph of what has been learned. -/
lemma Sound.ask_of_some (h : session.Sound limit) {question : String} {goal : Fact}
    (hgoal : Sentence.question? question.toList = some goal) :
    let answer :=
      (session.store.knowledge.graph (session.store.encoder.ready goal)).answer limit
        session.engine.machine.levels goal
    (session.ask question).1 = .ok ⟨question, some goal, some answer.1⟩ ∧
      (session.ask question).2.engine = session.engine.after answer ∧
      (session.ask question).2.config = session.config ∧
      (session.ask question).2.store.knowledge = session.store.knowledge ∧
      (session.store.encoder.ready goal).Same (session.ask question).2.store.encoder := by
  obtain ⟨encoder, hsame, hdeduce⟩ := h.store.fits.deduce h.store.encoder
    (Sentence.question?_isComplete hgoal) h.limit
  rw [Session.ask, hgoal]
  dsimp only
  rw [Session.deduce, hdeduce]
  exact ⟨rfl, rfl, rfl, rfl, hsame⟩

/-- **Asking** gives an answer, and loses nothing. -/
lemma Sound.ask (h : session.Sound limit) (question : String) :
    (∃ answer, (session.ask question).1 = .ok answer) ∧ (session.ask question).2.Sound limit ∧
      session.store.Grows (session.ask question).2.store := by
  obtain ⟨hsound, hgrows⟩ := sound_ask h.store question
  cases hgoal : Sentence.question? question.toList with
  | none =>
      rw [Session.ask, hgoal]
      exact ⟨⟨_, rfl⟩, ⟨h.store, h.limit, h.configured⟩, Store.Grows.refl _⟩
  | some goal =>
      obtain ⟨hresult, hengine, hconfig, -, -⟩ := h.ask_of_some hgoal
      refine ⟨⟨_, hresult⟩, ⟨hsound, ?_, ?_⟩, hgrows⟩
      · rw [hengine]
        exact h.limit
      · rw [hengine, hconfig]
        exact h.configured

/-- **A summary** has an entry for each fact and each rule, and no rule is unreadable. -/
lemma Sound.summary (h : session.Sound limit) :
    session.summary.1.facts.length = session.store.knowledge.facts.length ∧
      session.summary.1.rules.length = session.store.knowledge.rules.length ∧
      unreadableRule ∉ session.summary.1.rules ∧ session.summary.2.Sound limit := by
  obtain ⟨texts, later, hsummary, hsame, hlength, hreadable⟩ := exists_summary h.store
  rw [hsummary]
  exact ⟨List.length_map _, hlength, hreadable,
    (h.store.withEncoder hsame.sound hsame.grows).1, h.limit, h.configured⟩

/-- **Starting over**, with the same options. -/
lemma Sound.reset (h : session.Sound limit) : session.reset.Sound limit := by
  refine ⟨Store.sound_fresh session.sieveBound [], ?_, rfl⟩
  rw [Session.reset, Session.start, ← h.configured]
  exact h.limit

/-- **A turn** keeps a session sound. -/
lemma Sound.take (h : session.Sound limit) (turn : Turn) : (session.take turn).Sound limit := by
  cases turn with
  | learn text => exact (h.learn text).2.1
  | ask question => exact (h.ask question).2.1
  | summarise => exact h.summary.2.2.2
  | reset => exact h.reset

/-- **A run of turns**, by induction from the first one. -/
lemma Sound.takeAll (h : session.Sound limit) (turns : List Turn) :
    (session.takeAll turns).Sound limit := by
  induction turns generalizing session with
  | nil => exact h
  | cons turn turns ih => exact ih (h.take turn)

/-- A configured session is one as it is started. -/
lemma eq_start_of_ofConfig {machine : Machine} {config : Config}
    (hsession : Session.ofConfig machine config = .ok session) :
    ∃ bound, session = Session.start machine config bound := by
  unfold Session.ofConfig at hsession
  cases hbound : PrimeReasoner.sieveBound machine config.sieveLimit with
  | error error => simp [hbound, Except.map] at hsession
  | ok bound => exact ⟨bound, by simpa [hbound, Except.map] using hsession.symm⟩

lemma sound_of_depthBound {machine : Machine} {config : Config}
    (hsession : Session.ofConfig machine config = .ok session)
    (hlimit : ({ machine, maxDepth := config.maxDepth } : Engine).depthBound = .ok limit) : session.Sound limit := by
  obtain ⟨bound, rfl⟩ := eq_start_of_ofConfig hsession
  exact ⟨Store.sound_fresh bound [], hlimit, rfl⟩

/-- A session as it is started, whose depth limit is an integer or the default. -/
lemma sound_ofConfig {machine : Machine} {config : Config}
    (hdepth : config.maxDepth = .null ∨ ∃ m, config.maxDepth = .int m)
    (hsession : Session.ofConfig machine config = .ok session) : ∃ limit, session.Sound limit := by
  obtain ⟨limit, hlimit⟩ :
      ∃ limit, ({ machine, maxDepth := config.maxDepth } : Engine).depthBound = .ok limit := by
    rcases hdepth with hdepth | ⟨m, hdepth⟩
    · exact ⟨Engine.defaultDepth, by rw [hdepth]; rfl⟩
    · exact ⟨m, by rw [hdepth]; rfl⟩
  exact ⟨limit, sound_of_depthBound hsession hlimit⟩

end Session

/-- **Nothing fails.**  After any turns of a session whose depth limit is an integer or the default, every
text is learned, every question is answered, and the summary can read every rule; the conditions that a
sentence states always make an implication; and over a reachable store, with a numeric depth limit, a
deduction fails exactly if the question has a blank concept, and then the account stays as it was. -/
theorem no_call_fails :
    (∀ (machine : Machine) (config : Config) (session : Session),
      (config.maxDepth = .null ∨ ∃ m, config.maxDepth = .int m) →
      Session.ofConfig machine config = .ok session → ∀ turns : List Session.Turn,
        (∀ text, ∃ lessons, ((session.takeAll turns).learn text).1 = .ok lessons) ∧
        (∀ question, ∃ answer, ((session.takeAll turns).ask question).1 = .ok answer) ∧
        (session.takeAll turns).summary.1.facts.length =
          (session.takeAll turns).store.knowledge.facts.length ∧
        (session.takeAll turns).summary.1.rules.length =
          (session.takeAll turns).store.knowledge.rules.length ∧
        unreadableRule ∉ (session.takeAll turns).summary.1.rules) ∧
    (∀ (text : List Char) (conditions : List Fact) (conclusion : Fact),
      (Text.splitAll " and ".toList text).mapM Sentence.fact? = some conditions →
      ∃ rule, Rule.implication conditions conclusion = .ok rule) ∧
    (∀ (store : Store) (engine : Engine) (limit : Number) (goal : Fact),
      store.IsReachable → engine.depthLimit.number? = some limit →
      ((∃ error, (engine.deduce store.encoder store.knowledge goal).1 = .error error) ↔
        ¬ goal.IsComplete) ∧
      (¬ goal.IsComplete → (engine.deduce store.encoder store.knowledge goal).2.1 = engine)) := by
  refine ⟨fun machine config session hdepth hsession turns => ?_, fun text conditions conclusion hconditions =>
    Sentence.implication_ok hconditions conclusion, fun store engine limit goal hstore hlimit => ?_⟩
  · obtain ⟨limit, hsound⟩ := Session.sound_ofConfig hdepth hsession
    have hreached := hsound.takeAll turns
    obtain ⟨hfacts, hrules, hreadable, -⟩ := hreached.summary
    exact ⟨fun text => ⟨_, (hreached.learn text).1⟩, fun question => (hreached.ask question).1,
      hfacts, hrules, hreadable⟩
  · refine ⟨hstore.sound.deduce_error_iff (Engine.depthBound_eq_ok hlimit) goal, fun hincomplete => ?_⟩
    obtain ⟨error, -, hengine⟩ :=
      Engine.deduce_of_not_isComplete hstore.sound.encoder hincomplete engine store.knowledge
    exact hengine

theorem no_call_fails_by_default :
    Session.ofConfig .usual {} = .ok (Session.start .usual {} 1000) ∧
    (∃ answer, (((Session.start .usual {} 1000).takeAll [.learn "If x.", .ask "Is?"]).ask "Is the a?").1 =
      .ok answer) ∧
    (∃ rule, Rule.implication [⟨"a", "is", "b"⟩] ⟨"a", "is", "c"⟩ = .ok rule) ∧
    ∃ error, (({ machine := .usual } : Engine).deduce (Store.fresh 0 []).encoder (Store.fresh 0 []).knowledge
      ⟨" ", "is", "b"⟩).1 = .error error := by
  have hsession : Session.ofConfig .usual {} = .ok (Session.start .usual {} 1000) := by rfl
  have hincomplete : ¬ (⟨" ", "is", "b"⟩ : Fact).IsComplete := fun h =>
    absurd (Fact.isComplete_iff.mp h) (by decide +kernel)
  obtain ⟨hturns, hrule, hdeduce⟩ := no_call_fails
  have hanswers := (hturns .usual {} _ (.inl rfl) hsession [.learn "If x.", .ask "Is?"]).2.1
  have hfails := hdeduce (Store.fresh 0 []) { machine := .usual } (.whole 400) ⟨" ", "is", "b"⟩
    ⟨0, [], [], rfl⟩ rfl
  exact ⟨hsession, hanswers "Is the a?", hrule "a is b".toList _ ⟨"a", "is", "c"⟩ (by decide +kernel),
    (hfails.1).mpr hincomplete⟩

end PrimeReasoner
