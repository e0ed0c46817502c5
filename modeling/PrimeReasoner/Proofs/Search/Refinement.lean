import PrimeReasoner.Proofs.Search.KnowledgeGraph
import PrimeReasoner.Proofs.Search.Requests

/-!
# The search is the search on a graph

Over knowledge that fits the table, a search for a goal with known concepts enters nothing and never
fails to encode a goal.  So it runs like the search on the graph of the knowledge, step for step, with
the same answer and the same account of the work (`follows_decideGoal`).

**Following.**  `Follows encoder m f` says that `m` does what `f` does to the walk, on every encoder with
the given table, and leaves the table as it is.  There is a rule for each way in which the search is put
together, and one induction along each list that it runs through.

**A deduction** encodes its question first, which may enter concepts; from then on everything is known
(`Knowledge.Fits.deduce`).
-/

namespace PrimeReasoner

/-- The walk as a trail, with an encoder; a trail has no strays. -/
def Walk.trail (walk : Walk) (encoder : Encoder) : Trail :=
  ⟨encoder, walk.visited, walk.looped, walk.effort⟩

@[simp] lemma Walk.trail_encoder (walk : Walk) (encoder : Encoder) :
    (walk.trail encoder).encoder = encoder := rfl

/-- Without a result, the levels are used up. -/
def levelsLeft {α : Type} : Option α → Except Halt α
  | some a => .ok a
  | none => .error .outOfLevels

namespace Search

variable {α β : Type} {encoder : Encoder}

/-- The computation comes to this result from this trail, and the table stays as it is. -/
def FollowsAt (encoder : Encoder) (m : Search α) (trail : Trail) (result : Option α × Walk) : Prop :=
  ∃ later, encoder.Same later ∧ m.run.run trail = (levelsLeft result.1, result.2.trail later)

/-- The computation does what the function does to the walk. -/
def Follows (encoder : Encoder) (m : Search α) (f : Walk → Option α × Walk) : Prop :=
  ∀ (walk : Walk) (start : Encoder), encoder.Same start →
    FollowsAt encoder m (walk.trail start) (f walk)

lemma follows_pure (a : α) : Follows encoder (pure a) fun walk => (some a, walk) :=
  fun _ start hsame => ⟨start, hsame, rfl⟩

/-- A computation that starts by looking at the trail. -/
lemma follows_get {body : Trail → Search α} {f : Walk → Option α × Walk}
    (hbody : ∀ (walk : Walk) (start : Encoder), encoder.Same start →
      FollowsAt encoder (body (walk.trail start)) (walk.trail start) (f walk)) :
    Follows encoder (get >>= body) f := by
  intro walk start hsame
  obtain ⟨later, hlater, hrun⟩ := hbody walk start hsame
  exact ⟨later, hlater, by rw [run_run_bind]; exact hrun⟩

/-- Decoding a number of the table. -/
lemma follows_decode {body : Option Fact → Search α} {f : Walk → Option α × Walk} {n : Int}
    (hbody : Follows encoder (body (encoder.fact? n)) f) :
    Follows encoder (decode n >>= body) f := by
  intro walk start hsame
  obtain ⟨middle, hrun, hmiddle⟩ := hsame.sound.run_decodeFact n
  obtain ⟨later, hlater, hrun'⟩ := hbody walk middle (hsame.trans hmiddle)
  refine ⟨later, hlater, ?_⟩
  rw [run_run_bind, run_decode, Walk.trail_encoder, hrun, Encoder.fact?_congr hsame]
  exact hrun'

/-! ## The ways to a goal -/

section Ways

variable {prove : Fact → Search Verdict} {search : Fact → Walk → Option Verdict × Walk}
  (hprove : ∀ goal : Fact, encoder.Knows goal.concepts → Follows encoder (prove goal) (search goal))

include hprove

/-- A way with a single premise, followed by further ones. -/
lemma follows_single {goal premise : Fact} {way : Way} {ways : List Way}
    {conclude : Derivation → Derivation} {next : Search (Option Derivation)}
    (hpremise : way.premises goal = [premise])
    (hconclude : ∀ derivation, way.conclude goal [derivation] = conclude derivation)
    (hknows : encoder.Knows premise.concepts) (hnext : Follows encoder next (tryWays search goal ways)) :
    Follows encoder
      (do match ← prove premise with
        | .proved derivation => return some (conclude derivation)
        | .refused _ => next)
      (tryWays search goal (way :: ways)) := by
  intro before start hsame
  obtain ⟨middle, hmiddle, hrun⟩ := hprove premise hknows before start hsame
  unfold tryWays
  rw [hpremise, proveEach]
  rcases hsearch : search premise before with ⟨_ | ⟨derivation⟩ | ⟨reason⟩, walk⟩
  all_goals rw [hsearch] at hrun
  · exact ⟨middle, hmiddle, by rw [run_run_bind, hrun]; rfl⟩
  · refine ⟨middle, hmiddle, ?_⟩
    rw [run_run_bind, hrun]
    simp only [proveEach, hconclude]
    rfl
  · obtain ⟨later, hlater, hrun'⟩ := hnext walk middle hmiddle
    exact ⟨later, hlater, by rw [run_run_bind, hrun]; exact hrun'⟩

lemma follows_viaQuantified {goal : Fact} (hgoal : encoder.Knows goal.concepts)
    {rules : List EncodedRule} (hsound : encoder.Sound) (hrules : ∀ rule ∈ rules, rule.Reads encoder) :
    Follows encoder (viaQuantified prove goal rules)
      (tryWays search goal (rules.filterMap (memberWay? encoder goal))) := by
  induction rules with
  | nil => exact follows_pure none
  | cons rule rules ih =>
      have hrest := ih fun other hother => hrules other (List.mem_cons_of_mem rule hother)
      cases rule with
      | quantified quantifier _ c p q _ _ =>
          obtain ⟨hcategory, -, -, his⟩ := hrules _ List.mem_cons_self
          refine follows_get fun walk start hsame => ?_
          dsimp only
          rw [Walk.trail_encoder, Encoder.conceptOf_congr hsame.table, List.filterMap_cons, memberWay?]
          split_ifs with hmatch
          · have hknows : encoder.Knows (Fact.of goal.subject "is" (encoder.conceptOf c)).concepts :=
              Encoder.knows_of (hgoal goal.subject (by simp [Fact.concepts])) his
                (hsound.normalize_mem (hsound.conceptOf_mem hcategory))
            have hpremises : (Way.member quantifier (encoder.conceptOf c)
                (encoder.conceptOf p)).premises goal =
                [Fact.of goal.subject "is" (encoder.conceptOf c)] := rfl
            exact follows_single hprove hpremises (fun _ => rfl) hknows hrest walk start hsame
          · exact hrest walk start hsame
      | standard _ _ => exact hrest
      | unrecognised => exact hrest

lemma follows_viaChain {goal : Fact} (hgoal : encoder.Knows goal.concepts) {facts : List Fact}
    (hfacts : ∀ stored ∈ facts, encoder.Knows stored.concepts) :
    Follows encoder (viaChain prove goal facts)
      (tryWays search goal (facts.filterMap (linkedWay? goal))) := by
  induction facts with
  | nil => exact follows_pure none
  | cons stored facts ih =>
      have hrest := ih fun other hother => hfacts other (List.mem_cons_of_mem stored hother)
      rw [viaChain, List.filterMap_cons, linkedWay?]
      split_ifs with hmatch
      · have hknows : encoder.Knows (Fact.of stored.object goal.predicate goal.object).concepts :=
          Encoder.knows_of (hfacts stored List.mem_cons_self _ (by simp [Fact.concepts]))
            (hgoal _ (by simp [Fact.concepts])) (hgoal _ (by simp [Fact.concepts]))
        have hpremises : (Way.linked stored.object).premises goal =
            [Fact.of stored.object goal.predicate goal.object] := rfl
        exact follows_single hprove hpremises (fun _ => rfl) hknows hrest
      · exact hrest

lemma follows_proveAll (hsound : encoder.Sound) {encodings : List Int}
    (hencodings : ∀ encoding ∈ encodings, encoder.Numbers encoding) :
    Follows encoder (proveAll prove encodings)
      (proveEach search (encodings.filterMap encoder.fact?)) := by
  induction encodings with
  | nil => exact follows_pure (some [])
  | cons encoding encodings ih =>
      have hrest := ih fun other hother => hencodings other (List.mem_cons_of_mem encoding hother)
      obtain ⟨fact, hfact, hknows⟩ := hsound.fact?_of_numbers (hencodings _ List.mem_cons_self)
      rw [proveAll, List.filterMap_cons, hfact]
      refine follows_decode ?_
      rw [hfact]
      dsimp only
      intro before start hsame
      obtain ⟨middle, hmiddle, hrun⟩ := hprove fact hknows before start hsame
      rw [proveEach]
      rcases hsearch : search fact before with ⟨_ | ⟨derivation⟩ | ⟨reason⟩, walk⟩
      all_goals rw [hsearch] at hrun
      · exact ⟨middle, hmiddle, by rw [run_run_bind, hrun]; rfl⟩
      · obtain ⟨later, hlater, hrun'⟩ := hrest walk middle hmiddle
        refine ⟨later, hlater, ?_⟩
        rw [run_run_bind, hrun]
        simp only [levelsLeft]
        rw [run_run_bind, hrun']
        rcases proveEach search (encodings.filterMap encoder.fact?) walk with ⟨_ | _ | rest, last⟩ <;> rfl
      · exact ⟨middle, hmiddle, by rw [run_run_bind, hrun]; rfl⟩

lemma follows_viaStandard (hsound : encoder.Sound) (goal : Fact) (code : ℕ)
    {rules : List EncodedRule} (hrules : ∀ rule ∈ rules, rule.Reads encoder) :
    Follows encoder (viaStandard prove goal code rules)
      (tryWays search goal (rules.filterMap (impliedWay? encoder code))) := by
  induction rules with
  | nil => exact follows_pure none
  | cons rule rules ih =>
      have hrest := ih fun other hother => hrules other (List.mem_cons_of_mem rule hother)
      cases rule with
      | quantified _ _ _ _ _ _ _ => exact hrest
      | standard conditions conclusion =>
          rw [viaStandard, List.filterMap_cons, impliedWay?]
          split_ifs with hmatch
          · intro before start hsame
            obtain ⟨middle, hmiddle, hrun⟩ :=
              follows_proveAll hprove hsound (hrules _ List.mem_cons_self).1 before start hsame
            unfold tryWays
            rw [Way.premises]
            rcases hsearch : proveEach search (conditions.filterMap encoder.fact?) before with
              ⟨_ | _ | derivations, walk⟩
            all_goals rw [hsearch] at hrun
            · exact ⟨middle, hmiddle, by rw [run_run_bind, hrun]; rfl⟩
            · obtain ⟨later, hlater, hrun'⟩ := hrest walk middle hmiddle
              exact ⟨later, hlater, by rw [run_run_bind, hrun]; exact hrun'⟩
            · exact ⟨middle, hmiddle, by rw [run_run_bind, hrun]; rfl⟩
          · exact hrest
      | unrecognised => exact hrest

end Ways

/-! ## One goal -/

/-- The answer to a goal when the given ways have been tried: that of the first one that succeeds, or
else what comes after them. -/
def concludeWays (search : Fact → Walk → Option Verdict × Walk) (goal : Fact) (ways : List Way)
    (otherwise : Walk → Option Verdict × Walk) (walk : Walk) : Option Verdict × Walk :=
  match tryWays search goal ways walk with
  | (none, later) => (none, later)
  | (some (some derivation), later) => (some (.proved derivation), later)
  | (some none, later) => otherwise later

lemma concludeWays_append (search : Fact → Walk → Option Verdict × Walk) (goal : Fact)
    (ways more : List Way) (otherwise : Walk → Option Verdict × Walk) (walk : Walk) :
    concludeWays search goal (ways ++ more) otherwise walk =
      concludeWays search goal ways (concludeWays search goal more otherwise) walk := by
  induction ways generalizing walk with
  | nil => rfl
  | cons way ways ih =>
      unfold concludeWays at ih ⊢
      rw [List.cons_append, tryWays, tryWays]
      rcases proveEach search (way.premises goal) walk with ⟨_ | _ | derivations, middle⟩
      · rfl
      · exact ih middle
      · rfl

lemma Follows.orElse {way : Search (Option Derivation)} {next : Search Verdict}
    {search : Fact → Walk → Option Verdict × Walk} {goal : Fact} {ways : List Way}
    {otherwise : Walk → Option Verdict × Walk} (hway : Follows encoder way (tryWays search goal ways))
    (hnext : Follows encoder next otherwise) :
    Follows encoder (orElse way next) (concludeWays search goal ways otherwise) := by
  intro before start hsame
  obtain ⟨middle, hmiddle, hrun⟩ := hway before start hsame
  unfold PrimeReasoner.orElse concludeWays
  rcases hsearch : tryWays search goal ways before with ⟨_ | _ | derivation, walk⟩
  all_goals rw [hsearch] at hrun
  · exact ⟨middle, hmiddle, by rw [run_run_bind, hrun]; rfl⟩
  · obtain ⟨later, hlater, hrun'⟩ := hnext walk middle hmiddle
    exact ⟨later, hlater, by rw [run_run_bind, hrun]; exact hrun'⟩
  · exact ⟨middle, hmiddle, by rw [run_run_bind, hrun]; rfl⟩

variable {knowledge : Knowledge}

/-- All ways to a goal that is not stored. -/
lemma follows_ways {prove : Fact → Search Verdict} {search : Fact → Walk → Option Verdict × Walk}
    (hprove : ∀ goal : Fact, encoder.Knows goal.concepts → Follows encoder (prove goal) (search goal))
    (hsound : encoder.Sound) (hfits : knowledge.Fits encoder) {goal : Fact}
    (hgoal : encoder.Knows goal.concepts) {next : Search Verdict}
    {otherwise : Walk → Option Verdict × Walk} (hnext : Follows encoder next otherwise) :
    Follows encoder
      (orElse (viaQuantified prove goal knowledge.rules) <|
        orElse (viaStandard prove goal (encoder.code goal) knowledge.rules) <|
        orElse (if isTransitive goal.predicate then viaChain prove goal knowledge.facts
          else return none) next)
      (concludeWays search goal ((knowledge.graph encoder).ways goal) otherwise) := by
  have hrules : ∀ rule ∈ knowledge.rules, rule.Reads encoder := fun _ => hfits.reads hsound
  have hlinks : Follows encoder
      (if isTransitive goal.predicate then viaChain prove goal knowledge.facts else return none)
      (tryWays search goal ((knowledge.links goal).filterMap (linkedWay? goal))) := by
    unfold Knowledge.links
    split_ifs
    · exact follows_viaChain hprove hgoal hfits.facts
    · exact follows_pure none
  have hall := (follows_viaQuantified hprove hgoal hsound hrules).orElse
    ((follows_viaStandard hprove hsound goal (encoder.code goal) hrules).orElse
      (hlinks.orElse hnext))
  intro walk start hsame
  have hfollows := hall walk start hsame
  rwa [← funext (concludeWays_append search goal _ _ otherwise), ← concludeWays_append] at hfollows

lemma follows_expand {prove : Fact → Search Verdict} {search : Fact → Walk → Option Verdict × Walk}
    (hprove : ∀ goal : Fact, encoder.Knows goal.concepts → Follows encoder (prove goal) (search goal))
    (hsound : encoder.Sound) (hfits : knowledge.Fits encoder) {goal : Fact}
    (hgoal : encoder.Knows goal.concepts) :
    Follows encoder (expand prove knowledge goal (encoder.code goal)) fun walk =>
      if knowledge.holds (encoder.code goal) then (some (.proved (.direct goal)), walk)
      else concludeWays search goal ((knowledge.graph encoder).ways goal)
        (fun later => (some (.refused (later.refusal (encoder.code goal) walk.effort.cutoffs)), later))
        walk := by
  refine follows_get fun walk start hsame => ?_
  by_cases hheld : knowledge.holds (encoder.code goal) = true
  · simp only [if_pos hheld]
    exact follows_pure _ walk start hsame
  · simp only [if_neg hheld]
    refine follows_ways hprove hsound hfits hgoal (follows_get fun later last hlast => ?_) walk start hsame
    exact ⟨last, hlast, rfl⟩

/-- One goal, once it is encoded. -/
lemma run_decideGoal {limit : Int} {levels depth code : ℕ} {goal : Fact} {walk : Walk}
    {start middle : Encoder}
    (h : (encode goal).run.run (walk.trail start) = (.ok code, walk.trail middle))
    (pending : List Fact) :
    (decideGoal knowledge limit (levels + 1) depth goal).run.run (walk.trail start) =
      if goal.text ∈ walk.visited then
        (.ok (.refused .circular), ((walk.reach depth).meetAgain pending goal code).trail middle)
      else if limit < depth then
        (.ok (.refused .tooDeep), ((walk.reach depth).visit goal.text).cutOff.trail middle)
      else
        (expand (decideGoal knowledge limit levels (depth + 1)) knowledge goal code).run.run
          (((walk.reach depth).visit goal.text).expand.trail middle) := by
  rw [decideGoal, run_run_bind, h]
  change (if walk.visited.contains goal.text = true then _ else _ : Search Verdict).run.run _ = _
  by_cases hmem : goal.text ∈ walk.visited
  · rw [if_pos hmem, if_pos (List.contains_iff_mem.mpr hmem)]
    rfl
  · rw [if_neg hmem, if_neg (fun hc => hmem (List.contains_iff_mem.mp hc))]
    change (if limit < depth then _ else _ : Search Verdict).run.run _ = _
    split_ifs
    · rfl
    · rfl

/-- The search for a goal, once it is encoded, is the search on the graph. -/
lemma followsAt_decideGoal {limit : Int} {levels depth : ℕ} {goal : Fact} {pending : List Fact}
    (hprove : ∀ subgoal : Fact, encoder.Knows subgoal.concepts →
      Follows encoder (decideGoal knowledge limit levels (depth + 1) subgoal)
        ((knowledge.graph encoder).search limit levels (depth + 1) (goal :: pending) subgoal))
    (hsound : encoder.Sound) (hfits : knowledge.Fits encoder)
    (hgoal : encoder.Knows goal.concepts) {walk : Walk} {start middle : Encoder}
    (hmiddle : encoder.Same middle)
    (hencode : (encode goal).run.run (walk.trail start) =
      (.ok (encoder.code goal), walk.trail middle)) :
    FollowsAt encoder (decideGoal knowledge limit (levels + 1) depth goal) (walk.trail start)
      ((knowledge.graph encoder).search limit (levels + 1) depth pending goal walk) := by
  have hexpand := follows_expand hprove hsound hfits hgoal
    ((walk.reach depth).visit goal.text).expand middle hmiddle
  unfold FollowsAt Graph.search
  rw [run_decideGoal hencode pending]
  by_cases hmem : goal.text ∈ walk.visited
  · rw [if_pos hmem, if_pos hmem]
    exact ⟨middle, hmiddle, rfl⟩
  by_cases hlimit : limit < depth
  · rw [if_neg hmem, if_neg hmem, if_pos hlimit, if_pos hlimit]
    exact ⟨middle, hmiddle, rfl⟩
  rw [if_neg hmem, if_neg hmem, if_neg hlimit, if_neg hlimit]
  exact hexpand

/-- **The search is the search on the graph** of the knowledge, for goals with known concepts. -/
theorem follows_decideGoal (hsound : encoder.Sound) (hfits : knowledge.Fits encoder) (limit : Int)
    (levels depth : ℕ) (pending : List Fact) {goal : Fact} (hgoal : encoder.Knows goal.concepts) :
    Follows encoder (decideGoal knowledge limit levels depth goal)
      ((knowledge.graph encoder).search limit levels depth pending goal) := by
  induction levels generalizing depth pending goal with
  | zero => exact fun _ start hsame => ⟨start, hsame, rfl⟩
  | succ levels ih =>
      intro walk start hsame
      obtain ⟨n, middle, hrun, hmiddle, hcode⟩ :=
        hsame.sound.run_encodeFact (hgoal.grows hsame.grows)
      have hn : n = encoder.code goal := by
        rw [(Encoder.asks_encodeFact goal).stable hsound hgoal hsame.sound hsame.grows,
          hsound.factCode?_eq hgoal] at hcode
        exact (Option.some.inj hcode).symm
      refine followsAt_decideGoal (fun subgoal => ih (depth + 1) (goal :: pending)) hsound hfits hgoal
        (hsame.trans hmiddle) ?_
      rw [run_encode, Walk.trail_encoder, hrun, hn]
      rfl

end Search

/-! ## A deduction -/

/-- The encoder once the concepts of a goal have been asked for. -/
def Encoder.ready (encoder : Encoder) (goal : Fact) : Encoder :=
  ((Encoder.encodeFact goal).run.run encoder).2

/-- A complete goal is encoded, and its concepts are known from then on. -/
lemma Encoder.Sound.ready {encoder : Encoder} (h : encoder.Sound) {goal : Fact}
    (hcomplete : goal.IsComplete) :
    (encoder.ready goal).Sound ∧ encoder.Grows (encoder.ready goal) ∧
      (encoder.ready goal).Knows goal.concepts ∧
      (Encoder.encodeFact goal).run.run encoder =
        (.ok ((encoder.ready goal).code goal), encoder.ready goal) := by
  obtain ⟨n, later, hrun⟩ := (Encoder.asks_encodeFact goal).exists_ok h hcomplete
  obtain ⟨hgrows, hsound, hknows, hcode⟩ := (Encoder.asks_encodeFact goal).knows h hrun
  have hready : encoder.ready goal = later := by rw [Encoder.ready, hrun]
  have hn : later.code goal = n := by
    rw [Encoder.code, hcode later hsound (Encoder.Grows.refl later), Option.getD_some]
  rw [hready, hn]
  exact ⟨hsound, hgrows, hknows, hrun⟩

/-- The answer to a goal on a graph, within so many levels, with the work done for it. -/
def Graph.answer (graph : Graph) (limit : Int) (levels : ℕ) (goal : Fact) : Verdict × Effort :=
  match graph.search limit levels 0 [] goal {} with
  | (some verdict, walk) => (verdict, walk.effort)
  | (none, walk) =>
    (.refused .outOfLevels, { walk.effort with cutoffs := walk.effort.cutoffs + 1 })

/-- The engine after an answer. -/
def Engine.after (engine : Engine) (answer : Verdict × Effort) : Engine :=
  { engine with statistics := engine.statistics.record answer.2 answer.1 }

/-- A depth limit that is a number bounds the depth. -/
lemma Engine.depthBound_eq_ok {engine : Engine} {limit : Number}
    (h : engine.depthLimit.number? = some limit) :
    engine.depthBound = .ok (deepestWithin engine.machine.levels limit) := by
  rw [depthBound, h]

/-- **The search for a question** is the search on the graph of the knowledge, read in the table that has the
concepts of the question. -/
theorem Knowledge.Fits.run_decideGoal {knowledge : Knowledge} {encoder : Encoder}
    (hfits : knowledge.Fits encoder) (hsound : encoder.Sound) {goal : Fact}
    (hcomplete : goal.IsComplete) (limit : Int) (levels : ℕ) :
    ∃ later, (encoder.ready goal).Same later ∧
      (decideGoal knowledge limit (levels + 1) 0 goal).run.run { encoder } =
        (levelsLeft ((knowledge.graph (encoder.ready goal)).search limit (levels + 1) 0 [] goal {}).1,
          ((knowledge.graph (encoder.ready goal)).search limit (levels + 1) 0 [] goal {}).2.trail later) := by
  obtain ⟨hready, hgrows, hknows, hencode⟩ := hsound.ready hcomplete
  have hfits' := hfits.grows hsound hready hgrows
  have hstart : (Search.encode goal).run.run (({} : Walk).trail encoder) =
      (.ok ((encoder.ready goal).code goal), ({} : Walk).trail (encoder.ready goal)) := by
    rw [Search.run_encode, Walk.trail_encoder, hencode]
    rfl
  have htrail : ({ encoder } : Trail) = ({} : Walk).trail encoder := rfl
  rw [htrail]
  exact Search.followsAt_decideGoal
    (fun subgoal => Search.follows_decideGoal hready hfits' limit levels 1 [goal]) hready hfits' hknows
    hready.same hstart

/-- **A deduction is a search on the graph** of the knowledge, read in the table that has the concepts of
the question. -/
theorem Knowledge.Fits.deduce {knowledge : Knowledge} {encoder : Encoder}
    (hfits : knowledge.Fits encoder) (hsound : encoder.Sound) {goal : Fact}
    (hcomplete : goal.IsComplete) {engine : Engine} {limit : Int}
    (hlimit : engine.depthBound = .ok limit) :
    ∃ later, (encoder.ready goal).Same later ∧
      engine.deduce encoder knowledge goal =
        (.ok ((knowledge.graph (encoder.ready goal)).answer limit engine.machine.levels goal).1,
          engine.after ((knowledge.graph (encoder.ready goal)).answer limit engine.machine.levels goal), later) := by
  obtain ⟨levels, hlevels⟩ := engine.machine.exists_levels
  obtain ⟨later, hlater, hrun⟩ := hfits.run_decideGoal hsound hcomplete limit levels
  refine ⟨later, hlater, ?_⟩
  unfold Engine.deduce Engine.after Graph.answer
  rw [hlimit, hlevels]
  dsimp only
  rw [hrun]
  rcases (knowledge.graph (encoder.ready goal)).search limit (levels + 1) 0 [] goal {} with
    ⟨_ | verdict, walk⟩ <;> rfl

/-- A question that cannot be encoded is not answered, and the account stays as it was. -/
lemma Engine.deduce_of_error {encoder later : Encoder} {goal : Fact} {error : EncodingError}
    (hrun : (Encoder.encodeFact goal).run.run encoder = (.error error, later)) (engine : Engine)
    (knowledge : Knowledge) :
    engine.deduce encoder knowledge goal = (.error (.encoding error), engine, later) := by
  unfold Engine.deduce
  cases engine.depthBound with
  | error other => simp only [hrun]
  | ok limit =>
      obtain ⟨levels, hlevels⟩ := engine.machine.exists_levels
      have hsearch : (decideGoal knowledge limit (levels + 1) 0 goal).run.run { encoder } =
          (.error (.encoding error), { encoder := later }) := by
        rw [decideGoal, run_run_bind, Search.run_encode, hrun]
      dsimp only
      rw [hlevels, hsearch]

/-- A deduction fails if a concept of the question is blank, and then the account stays as it was. -/
lemma Engine.deduce_of_not_isComplete {encoder : Encoder} (hsound : encoder.Sound) {goal : Fact}
    (hincomplete : ¬ goal.IsComplete) (engine : Engine) (knowledge : Knowledge) :
    ∃ error, (engine.deduce encoder knowledge goal).1 = .error (.encoding error) ∧
      (engine.deduce encoder knowledge goal).2.1 = engine := by
  rcases hrun : (Encoder.encodeFact goal).run.run encoder with ⟨error | n, later⟩
  · rw [deduce_of_error hrun]
    exact ⟨error, rfl, rfl⟩
  · obtain ⟨-, -, hne⟩ := Encoder.asks_encodeFact goal encoder hsound
    rw [hrun] at hne
    exact absurd hne.1 hincomplete

end PrimeReasoner
