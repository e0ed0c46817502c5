import PrimeReasoner.Proofs.Search.Lockstep
import PrimeReasoner.Proofs.Session

/-!
# The sieve saves time and changes nothing

How many primes are sieved at the start, and who else has used the source of primes before, decides how much
work is left to do later.  No answer depends on it.

**Responses.**  `Session.respond` is one turn of a session with what the user gets to see of it, and
`Store.respond` is one use of a store or of its encoder with what it returns.

**Twins.**  Two sessions are twins if they have learned the same, with encoders that have the same table
(`Session.Twin`); then every turn shows the same on both sides and leaves twins behind
(`Session.lockstep_respond`), and likewise for stores (`Store.lockstep_respond`).  What may differ are the
figures of the source.
-/

namespace PrimeReasoner

namespace Encoder

/-- What a use of an encoder or of a store returns. -/
inductive Response where
  | number (result : Except EncodingError ℕ)
  | rule (result : Except EncodingError EncodedRule)
  | fact (result : Option Fact)
  | verdict (result : Except DeductionError Verdict) (engine : Engine)
  /-- Somebody else has used the source of primes. -/
  | nothing

/-- What a call returns, and the encoder afterwards. -/
def Call.respond : Call → Encoder → Response × Encoder
  | .primeOf given, encoder => ((Encoder.primeOf given).run.run encoder).map Response.number id
  | .encodeFact fact, encoder => ((Encoder.encodeFact fact).run.run encoder).map Response.number id
  | .encodeRule proposal, encoder => ((Encoder.encodeProposal proposal).run.run encoder).map Response.rule id
  | .decodeFact n, encoder => ((Encoder.decodeFact n).run encoder).map Response.fact id
  | .deduce engine knowledge goal, encoder =>
    let (result, engine, encoder) := engine.deduce encoder knowledge goal
    (.verdict result engine, encoder)
  | .consult request, encoder => (.nothing, { encoder with source := encoder.source.serve request })

lemma Call.respond_snd (call : Call) (encoder : Encoder) : (call.respond encoder).2 = call.run encoder := by
  cases call <;> simp only [Call.respond, Call.run, Prod.map_snd, id]

lemma lockstep_respond (call : Call) : Lockstep Twin call.respond := by
  cases call with
  | primeOf given => exact (lockstep_primeOf given).map Response.number
  | encodeFact fact => exact (lockstep_encodeFact fact).map Response.number
  | encodeRule proposal => exact (lockstep_encodeProposal proposal).map Response.rule
  | decodeFact n => exact (lockstep_decodeFact n).map Response.fact
  | deduce engine knowledge goal =>
      intro first second h
      obtain ⟨result, counted, later, later', hrun, hrun', htwin⟩ :=
        engine.lockstep_deduce knowledge goal h
      exact ⟨.verdict result counted, later, later', by simp only [Call.respond, hrun],
        by simp only [Call.respond, hrun'], htwin⟩
  | consult request =>
      rintro first second ⟨hfirst, hsecond, htable⟩
      refine ⟨.nothing, _, _, rfl, rfl, ?_, ?_, htable⟩
      · exact ⟨hfirst.source.serve request, hfirst.table, hfirst.nodup, hfirst.normal⟩
      · exact ⟨hsecond.source.serve request, hsecond.table, hsecond.nodup, hsecond.normal⟩

/-- New tables on sources that have been used by others, in one way or another. -/
lemma twin_fresh (limit limit' : Int) (before before' : List Prime.Request) :
    (fresh limit before).Twin (fresh limit' before') := by
  obtain ⟨hfirst, hconcepts⟩ := sound_fresh limit before
  obtain ⟨hsecond, hconcepts'⟩ := sound_fresh limit' before'
  refine ⟨hfirst, hsecond, ?_⟩
  rw [hfirst.table, hsecond.table, hconcepts, hconcepts']

end Encoder

/-! ## Stores -/

namespace Store

/-- The same knowledge, and encoders with the same table. -/
structure Twin (first second : Store) : Prop where
  encoder : first.encoder.Twin second.encoder
  knowledge : second.knowledge = first.knowledge

lemma lockstep_addFact (fact : Fact) : Lockstep Twin fun store => store.addFact fact := by
  intro first second h
  obtain ⟨result, later, later', hrun, hrun', htwin⟩ := Encoder.lockstep_encodeFact fact _ _ h.encoder
  dsimp only [Store.addFact]
  rw [hrun, hrun', h.knowledge]
  cases result <;> exact ⟨_, _, _, rfl, rfl, htwin, rfl⟩

lemma lockstep_addRule (proposal : Proposal) : Lockstep Twin fun store => store.addRule proposal := by
  intro first second h
  obtain ⟨result, later, later', hrun, hrun', htwin⟩ :=
    Encoder.lockstep_encodeProposal proposal _ _ h.encoder
  dsimp only [Store.addRule]
  rw [hrun, hrun', h.knowledge]
  cases result <;> exact ⟨_, _, _, rfl, rfl, htwin, rfl⟩

lemma lockstep_ruleTexts (knowledge : Knowledge) :
    Lockstep Twin fun store => store.ruleTexts knowledge := by
  intro first second h
  obtain ⟨texts, later, later', hrun, hrun', htwin⟩ :=
    lockstep_describeAll knowledge.rules _ _ h.encoder
  dsimp only [Store.ruleTexts]
  rw [hrun, hrun']
  exact ⟨_, _, _, rfl, rfl, htwin, h.knowledge⟩

/-- What an operation returns, and the store afterwards. -/
def respond : Operation → Store → Encoder.Response × Store
  | .addFact fact, store => (store.addFact fact).map Encoder.Response.number id
  | .addRule proposal, store => (store.addRule proposal).map Encoder.Response.rule id
  | .call call, store => (call.respond store.encoder).map id fun encoder => { store with encoder }

/-- **One operation** returns the same for twins. -/
lemma lockstep_respond (operation : Operation) : Lockstep Twin (respond operation) := by
  cases operation with
  | addFact fact => exact (lockstep_addFact fact).map Encoder.Response.number
  | addRule proposal => exact (lockstep_addRule proposal).map Encoder.Response.rule
  | call call =>
      intro first second h
      obtain ⟨response, later, later', hrun, hrun', htwin⟩ := Encoder.lockstep_respond call _ _ h.encoder
      exact ⟨response, { first with encoder := later }, { second with encoder := later' },
        by simp [respond, hrun], by simp [respond, hrun'], htwin, h.knowledge⟩

/-- Responding to operations is performing them. -/
lemma runEach_respond_snd (store : Store) (operations : List Operation) :
    (runEach respond operations store).2 = store.performAll operations := by
  refine runEach_snd (fun operation store => ?_) operations store
  cases operation with
  | addFact fact => simp only [respond, perform, Prod.map_snd, id]
  | addRule proposal => simp only [respond, perform, Prod.map_snd, id]
  | call call => simp only [respond, perform, Prod.map_snd, call.respond_snd]

end Store

/-! ## Sessions -/

namespace Session

/-- The same has been learned, asked and counted, with encoders that have the same table. -/
structure Twin (first second : Session) : Prop where
  store : first.store.Twin second.store
  engine : second.engine = first.engine
  tally : second.tally = first.tally
  depth : second.config.maxDepth = first.config.maxDepth

/-- What the user gets to see of a turn. -/
inductive Response where
  | lines (result : Except EncodingError (List String))
  | answer (result : Except DeductionError Answer)
  | summary (result : Summary)
  | restarted

/-- What a turn shows, and the session afterwards. -/
def respond : Turn → Session → Response × Session
  | .learn text, session =>
    (session.learn text).map (fun result => Response.lines (result.map (List.map Lesson.line))) id
  | .ask question, session => (session.ask question).map Response.answer id
  | .summarise, session => session.summary.map Response.summary id
  | .reset, session => (.restarted, session.reset)

lemma lockstep_absorb (lesson : Lesson) : Lockstep Twin fun session => session.absorb lesson := by
  intro first second h
  cases lesson with
  | rule rule =>
      obtain ⟨result, later, later', hrun, hrun', htwin⟩ :=
        Store.lockstep_addRule (.rule rule) _ _ h.store
      dsimp only [Session.absorb] at hrun hrun' ⊢
      rw [hrun, hrun', h.tally]
      cases result <;> exact ⟨_, _, _, rfl, rfl, htwin, h.engine, by simp, h.depth⟩
  | fact fact =>
      obtain ⟨result, later, later', hrun, hrun', htwin⟩ := Store.lockstep_addFact fact _ _ h.store
      dsimp only [Session.absorb] at hrun hrun' ⊢
      rw [hrun, hrun', h.tally]
      cases result <;> exact ⟨_, _, _, rfl, rfl, htwin, h.engine, by simp, h.depth⟩
  | rejected text => exact ⟨_, _, _, rfl, rfl, h.store, h.engine, by simp [h.tally], h.depth⟩

lemma lockstep_absorbAll (lessons : List Lesson) :
    Lockstep Twin fun session => session.absorbAll lessons := by
  induction lessons with
  | nil => exact fun first second h => ⟨_, first, second, rfl, rfl, h⟩
  | cons lesson lessons ih =>
      intro first second h
      obtain ⟨result, middle, middle', hrun, hrun', hmiddle⟩ := lockstep_absorb lesson _ _ h
      dsimp only [Session.absorbAll] at hrun hrun' ⊢
      rw [hrun, hrun']
      cases result with
      | error error => exact ⟨_, middle, middle', rfl, rfl, hmiddle⟩
      | ok _ => exact ih middle middle' hmiddle

lemma lockstep_learn (text : String) : Lockstep Twin fun session => session.learn text := by
  intro first second h
  obtain ⟨result, later, later', hrun, hrun', htwin⟩ :=
    lockstep_absorbAll (Lesson.readAll text) _ _ h
  dsimp only [Session.learn] at hrun hrun' ⊢
  rw [hrun, hrun']
  cases result <;> exact ⟨_, later, later', rfl, rfl, htwin⟩

lemma lockstep_deduce (goal : Fact) : Lockstep Twin fun session => session.deduce goal := by
  intro first second h
  obtain ⟨result, counted, later, later', hrun, hrun', htwin⟩ :=
    first.engine.lockstep_deduce first.store.knowledge goal h.store.encoder
  dsimp only [Session.deduce]
  rw [h.engine, h.store.knowledge, hrun, hrun']
  exact ⟨_, _, _, rfl, rfl, ⟨htwin, rfl⟩, rfl, h.tally, h.depth⟩

lemma lockstep_ask (question : String) : Lockstep Twin fun session => session.ask question := by
  intro first second h
  dsimp only [Session.ask]
  cases Sentence.question? question.toList with
  | none => exact ⟨_, _, _, rfl, rfl, h.store, h.engine, by simp [h.tally], h.depth⟩
  | some goal =>
      obtain ⟨result, later, later', hrun, hrun', htwin⟩ := lockstep_deduce goal _ _ h
      dsimp only at hrun hrun' ⊢
      rw [hrun, hrun']
      cases result with
      | error error => exact ⟨_, later, later', rfl, rfl, htwin⟩
      | ok verdict =>
          exact ⟨_, _, _, rfl, rfl, htwin.store, htwin.engine, by simp [htwin.tally], htwin.depth⟩

lemma lockstep_summary : Lockstep Twin Session.summary := by
  intro first second h
  obtain ⟨texts, later, later', hrun, hrun', htwin⟩ :=
    Store.lockstep_ruleTexts first.store.knowledge _ _ h.store
  dsimp only [Session.summary] at hrun hrun' ⊢
  rw [h.store.knowledge, hrun, hrun']
  exact ⟨_, _, _, rfl, rfl, htwin, h.engine, h.tally, h.depth⟩

/-- Sessions as they are started on one machine, with the same depth limit. -/
lemma twin_start (machine : Machine) {config config' : Config} (hdepth : config'.maxDepth = config.maxDepth)
    (bound bound' : Int) : (Session.start machine config bound).Twin (Session.start machine config' bound') :=
  ⟨⟨Encoder.twin_fresh bound bound' [] [], rfl⟩, by simp [Session.start, hdepth], rfl, hdepth⟩

/-- Only the figures of the sources may differ. -/
lemma Twin.figures {first second : Session} (h : first.Twin second) :
    { second.figures with primes := first.figures.primes } = first.figures := by
  simp only [Session.figures, h.tally, h.engine, h.store.knowledge, h.store.encoder.same.table]

/-- **One turn** shows the same for twins. -/
lemma lockstep_respond (turn : Turn) : Lockstep Twin (respond turn) := by
  cases turn with
  | learn text => exact (lockstep_learn text).map fun result => Response.lines (result.map (List.map Lesson.line))
  | ask question => exact (lockstep_ask question).map Response.answer
  | summarise => exact lockstep_summary.map Response.summary
  | reset =>
      intro first second h
      refine ⟨_, _, _, rfl, rfl, ?_⟩
      rw [Session.reset, Session.reset, h.engine]
      exact twin_start _ h.depth _ _

/-- Responding to turns is taking them. -/
lemma runEach_respond_snd (session : Session) (turns : List Turn) :
    (runEach respond turns session).2 = session.takeAll turns :=
  runEach_snd (fun turn _ => by cases turn <;> simp only [respond, take, Prod.map_snd, id]) turns session

end Session

/-- **The sieve is nothing but an optimisation.**  Two sessions on one machine whose options differ in the integer up
to which primes are sieved, and in nothing else, show the same in every turn: lines, answers and summaries.  Their
tables and their figures are the same too, but for the figures of the sources of primes.  And two stores whose encoders
draw on different sources, each of which has been used by others in one way or another, return the same for every
operation, and have the same tables, the same contents and the same rule sentences. -/
theorem sieve_unobservable :
    (∀ (machine : Machine) (limit limit' : Int) (maxDepth : Setting) (first second : Session),
      Session.ofConfig machine { sieveLimit := .int limit, maxDepth } = .ok first →
      Session.ofConfig machine { sieveLimit := .int limit', maxDepth } = .ok second →
      ∀ turns : List Session.Turn,
        (runEach Session.respond turns second).1 = (runEach Session.respond turns first).1 ∧
        (second.takeAll turns).store.encoder.table = (first.takeAll turns).store.encoder.table ∧
        { (second.takeAll turns).figures with primes := (first.takeAll turns).figures.primes } =
          (first.takeAll turns).figures) ∧
    (∀ (limit limit' : Int) (before before' : List Prime.Request) (operations : List Store.Operation),
      let first := Store.fresh limit before
      let second := Store.fresh limit' before'
      (runEach Store.respond operations second).1 = (runEach Store.respond operations first).1 ∧
      (second.performAll operations).encoder.table = (first.performAll operations).encoder.table ∧
      (second.performAll operations).knowledge = (first.performAll operations).knowledge ∧
      ((second.performAll operations).ruleTexts (second.performAll operations).knowledge).1 =
        ((first.performAll operations).ruleTexts (first.performAll operations).knowledge).1) := by
  constructor
  · intro machine limit limit' maxDepth first second hfirst hsecond turns
    obtain ⟨bound, rfl⟩ := Session.eq_start_of_ofConfig hfirst
    obtain ⟨bound', rfl⟩ := Session.eq_start_of_ofConfig hsecond
    have hstart : (Session.start machine { sieveLimit := .int limit, maxDepth } bound).Twin
        (Session.start machine { sieveLimit := .int limit', maxDepth } bound') :=
      Session.twin_start machine (by rfl) bound bound'
    obtain ⟨responses, later, later', hrun, hrun', htwin⟩ :=
      Lockstep.runEach Session.lockstep_respond turns _ _ hstart
    rw [← Session.runEach_respond_snd, ← Session.runEach_respond_snd, hrun, hrun']
    exact ⟨rfl, htwin.store.encoder.same.table, htwin.figures⟩
  · intro limit limit' before before' operations first second
    have hfresh : first.Twin second :=
      ⟨Encoder.twin_fresh limit limit' before before', rfl⟩
    obtain ⟨responses, later, later', hrun, hrun', htwin⟩ :=
      Lockstep.runEach Store.lockstep_respond operations _ _ hfresh
    rw [← Store.runEach_respond_snd, ← Store.runEach_respond_snd, hrun, hrun']
    refine ⟨rfl, htwin.encoder.same.table, htwin.knowledge, ?_⟩
    obtain ⟨texts, last, last', htexts, htexts', -⟩ := Store.lockstep_ruleTexts later.knowledge _ _ htwin
    dsimp only at htexts htexts' ⊢
    rw [htwin.knowledge, htexts, htexts']

/-- A question over what a text has taught, with the summary before and after a fresh start. -/
def sampleTurns : List Session.Turn :=
  [.learn "all b are c.a is b", .ask "is a c", .summarise, .reset, .learn "a is d", .summarise]

theorem same_without_sieve :
    ∃ first second : Session, Session.ofConfig .usual { sieveLimit := .int 30, maxDepth := .int 5 } = .ok first ∧
      Session.ofConfig .usual { sieveLimit := .int (-7), maxDepth := .int 5 } = .ok second ∧
      (runEach Session.respond sampleTurns second).1 = (runEach Session.respond sampleTurns first).1 ∧
      first.store.encoder.source.known ≠ second.store.encoder.source.known ∧
      ((Store.fresh (-7) []).performAll [.addFact ⟨"a", "is", "b"⟩]).encoder.table =
        ((Store.fresh 30 [.nthPrime 100]).performAll [.addFact ⟨"a", "is", "b"⟩]).encoder.table := by
  obtain ⟨hsessions, hstores⟩ := sieve_unobservable
  refine ⟨_, _, rfl, rfl, (hsessions .usual 30 (-7) (.int 5) _ _ rfl rfl sampleTurns).1, by decide +kernel,
    (hstores 30 (-7) [.nthPrime 100] [] [.addFact ⟨"a", "is", "b"⟩]).2.1⟩

end PrimeReasoner
