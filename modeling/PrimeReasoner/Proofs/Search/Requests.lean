import PrimeReasoner.Engine
import PrimeReasoner.Proofs.Encoder.Coding

/-!
# What a search does to the table

A search encodes its goals, so it may enter concepts, and it may be stopped in the middle.  Whatever
it searches (the knowledge may be made up, with numbers that the table does not have), and however it
ends, all it does to the table is to ask for the concepts of its goals.

**Requests.**  `Encoder.Asked` relates two encoders if the later table comes from the earlier one by
the requests of some goals.  The relation is reflexive and transitive.

**Asking only.**  A computation `OnlyAsks` if it relates the encoder before it to the one after it.
Encoding and decoding only ask, and so do the ways to a goal, one after the other; hence the whole
search does (`onlyAsks_decideGoal`).  A deduction asks for the concepts of the question first
(`Encoder.Sound.deduce`).
-/

namespace PrimeReasoner

namespace Encoder

/-- The requests made for the encoding of facts, in order. -/
def requestsOf (facts : List Fact) : List String := facts.flatMap fun fact => untilBlank fact.concepts

/-- The later table comes from the earlier one by the requests of some facts. -/
def Asked (encoder later : Encoder) : Prop :=
  encoder.Sound → later.Sound ∧
    ∃ facts : List Fact, later.concepts = requestAll encoder.concepts (requestsOf facts)

lemma Asked.refl (encoder : Encoder) : encoder.Asked encoder := fun h => ⟨h, [], rfl⟩

lemma Asked.trans {first second third : Encoder} (h : first.Asked second) (h' : second.Asked third) :
    first.Asked third := by
  intro hfirst
  obtain ⟨hsecond, facts, hfacts⟩ := h hfirst
  obtain ⟨hthird, more, hmore⟩ := h' hsecond
  refine ⟨hthird, facts ++ more, ?_⟩
  rw [hmore, hfacts, ← requestAll_append, requestsOf, requestsOf, requestsOf, List.flatMap_append]

end Encoder

namespace Search

variable {α β : Type}

/-- The computation does nothing to the table but ask for the concepts of facts. -/
def OnlyAsks (m : Search α) : Prop :=
  ∀ trail : Trail, trail.encoder.Asked (m.run.run trail).2.encoder

/-- A computation that leaves the encoder as it is. -/
lemma onlyAsks_of_encoder_eq {m : Search α} (h : ∀ trail, (m.run.run trail).2.encoder = trail.encoder) :
    OnlyAsks m := by
  intro trail
  rw [h trail]
  exact Encoder.Asked.refl _

lemma OnlyAsks.bind {m : Search α} {next : α → Search β} (hm : OnlyAsks m)
    (hnext : ∀ a, OnlyAsks (next a)) : OnlyAsks (m >>= next) := by
  intro trail
  have hfirst := hm trail
  rw [run_run_bind]
  rcases hrun : m.run.run trail with ⟨result, middle⟩
  rw [hrun] at hfirst
  cases result with
  | error halt => exact hfirst
  | ok a => exact hfirst.trans (hnext a middle)

lemma onlyAsks_pure (a : α) : OnlyAsks (pure a) := onlyAsks_of_encoder_eq fun _ => rfl

lemma onlyAsks_get : OnlyAsks (get : Search Trail) := onlyAsks_of_encoder_eq fun _ => rfl

lemma run_encode (goal : Fact) (trail : Trail) :
    (encode goal).run.run trail =
      match (Encoder.encodeFact goal).run.run trail.encoder with
      | (.ok encoding, encoder) => (.ok encoding, { trail with encoder })
      | (.error error, encoder) => (.error (.encoding error), { trail with encoder }) := by
  unfold encode
  generalize Encoder.encodeFact goal = m
  rfl

lemma run_decode (n : Int) (trail : Trail) :
    (decode n).run.run trail =
      (.ok ((Encoder.decodeFact n).run trail.encoder).1,
        { trail with encoder := ((Encoder.decodeFact n).run trail.encoder).2 }) := by
  unfold decode
  generalize Encoder.decodeFact n = m
  rfl

lemma onlyAsks_encode (goal : Fact) : OnlyAsks (encode goal) := by
  intro trail h
  obtain ⟨hsound, hconcepts, -⟩ := Encoder.asks_encodeFact goal trail.encoder h
  have hlater : ((encode goal).run.run trail).2.encoder =
      ((Encoder.encodeFact goal).run.run trail.encoder).2 := by
    rw [run_encode]
    rcases (Encoder.encodeFact goal).run.run trail.encoder with ⟨error | n, later⟩ <;> rfl
  rw [hlater]
  exact ⟨hsound, [goal], by simpa [Encoder.requestsOf] using hconcepts⟩

lemma onlyAsks_decode (n : Int) : OnlyAsks (decode n) := by
  intro trail h
  obtain ⟨later, hrun, hsame⟩ := h.run_decodeFact n
  rw [run_decode, hrun]
  exact ⟨hsame.sound, [], Encoder.concepts_congr hsame.table⟩

/-! ## The ways to a goal -/

lemma onlyAsks_viaQuantified {prove : Fact → Search Verdict} (hprove : ∀ goal, OnlyAsks (prove goal))
    (goal : Fact) (rules : List EncodedRule) : OnlyAsks (viaQuantified prove goal rules) := by
  induction rules with
  | nil => exact onlyAsks_pure none
  | cons rule rules ih =>
      cases rule with
      | quantified quantifier _ categoryPrime propertyPrime predicatePrime _ _ =>
          refine onlyAsks_get.bind fun trail => ?_
          dsimp only
          split_ifs
          · refine (hprove _).bind fun verdict => ?_
            cases verdict with
            | proved membership => exact onlyAsks_pure _
            | refused reason => exact ih
          · exact ih
      | standard conditions conclusion => exact ih
      | unrecognised => exact ih

lemma onlyAsks_proveAll {prove : Fact → Search Verdict} (hprove : ∀ goal, OnlyAsks (prove goal))
    (encodings : List Int) : OnlyAsks (proveAll prove encodings) := by
  induction encodings with
  | nil => exact onlyAsks_pure _
  | cons encoding encodings ih =>
      refine (onlyAsks_decode encoding).bind fun condition => ?_
      cases condition with
      | none => exact onlyAsks_pure none
      | some condition =>
          refine (hprove condition).bind fun verdict => ?_
          cases verdict with
          | refused reason => exact onlyAsks_pure none
          | proved derivation => exact ih.bind fun derivations => onlyAsks_pure _

lemma onlyAsks_viaStandard {prove : Fact → Search Verdict} (hprove : ∀ goal, OnlyAsks (prove goal))
    (goal : Fact) (encoding : ℕ) (rules : List EncodedRule) :
    OnlyAsks (viaStandard prove goal encoding rules) := by
  induction rules with
  | nil => exact onlyAsks_pure none
  | cons rule rules ih =>
      cases rule with
      | quantified => exact ih
      | standard conditions conclusion =>
          unfold viaStandard
          split_ifs
          · refine (onlyAsks_proveAll hprove conditions).bind fun derivations => ?_
            cases derivations with
            | some derivations => exact onlyAsks_pure _
            | none => exact ih
          · exact ih
      | unrecognised => exact ih

lemma onlyAsks_viaChain {prove : Fact → Search Verdict} (hprove : ∀ goal, OnlyAsks (prove goal))
    (goal : Fact) (facts : List Fact) : OnlyAsks (viaChain prove goal facts) := by
  induction facts with
  | nil => exact onlyAsks_pure none
  | cons stored facts ih =>
      unfold viaChain
      split_ifs
      · refine (hprove _).bind fun verdict => ?_
        cases verdict with
        | proved rest => exact onlyAsks_pure _
        | refused reason => exact ih
      · exact ih

lemma OnlyAsks.orElse {way : Search (Option Derivation)} {next : Search Verdict}
    (hway : OnlyAsks way) (hnext : OnlyAsks next) : OnlyAsks (orElse way next) := by
  refine hway.bind fun found => ?_
  cases found with
  | some derivation => exact onlyAsks_pure _
  | none => exact hnext

lemma onlyAsks_expand {prove : Fact → Search Verdict} (hprove : ∀ goal, OnlyAsks (prove goal))
    (knowledge : Knowledge) (goal : Fact) (encoding : ℕ) :
    OnlyAsks (expand prove knowledge goal encoding) := by
  refine onlyAsks_get.bind fun trail => ?_
  dsimp only
  split_ifs
  · exact onlyAsks_pure _
  all_goals
    refine (onlyAsks_viaQuantified hprove goal _).orElse ?_
    refine (onlyAsks_viaStandard hprove goal encoding _).orElse ?_
    refine OnlyAsks.orElse ?_ (onlyAsks_get.bind fun trail => onlyAsks_pure _)
  · exact onlyAsks_viaChain hprove goal _
  · exact onlyAsks_pure none

/-- A goal is encoded before anything else is done. -/
lemma exists_decideGoal_eq {knowledge : Knowledge} {limit : Int} {levels depth : ℕ}
    (hprove : ∀ subgoal, OnlyAsks (decideGoal knowledge limit levels (depth + 1) subgoal))
    (goal : Fact) :
    ∃ next : ℕ → Search Verdict,
      decideGoal knowledge limit (levels + 1) depth goal = encode goal >>= next ∧
      ∀ encoding, OnlyAsks (next encoding) := by
  refine ⟨_, rfl, fun encoding => ?_⟩
  refine (onlyAsks_of_encoder_eq fun _ => rfl).bind fun _ => onlyAsks_get.bind fun trail => ?_
  split_ifs
  · exact (onlyAsks_of_encoder_eq fun _ => rfl).bind fun _ => onlyAsks_pure _
  · refine (onlyAsks_of_encoder_eq fun _ => rfl).bind fun _ => ?_
    exact (onlyAsks_of_encoder_eq fun _ => rfl).bind fun _ => onlyAsks_pure _
  · refine (onlyAsks_of_encoder_eq fun _ => rfl).bind fun _ => ?_
    refine (onlyAsks_of_encoder_eq fun _ => rfl).bind fun _ => ?_
    exact onlyAsks_expand hprove knowledge goal encoding

lemma onlyAsks_decideGoal (knowledge : Knowledge) (limit : Int) (levels depth : ℕ) (goal : Fact) :
    OnlyAsks (decideGoal knowledge limit levels depth goal) := by
  induction levels generalizing depth goal with
  | zero => exact onlyAsks_of_encoder_eq fun _ => rfl
  | succ levels ih =>
      obtain ⟨next, heq, hnext⟩ := exists_decideGoal_eq (ih (depth + 1)) goal
      rw [heq]
      exact (onlyAsks_encode goal).bind hnext

/-- The concepts of the goal come first, then those of further goals. -/
lemma requests_decideGoal (knowledge : Knowledge) (limit : Int) (levels depth : ℕ) (goal : Fact)
    {trail : Trail} (h : trail.encoder.Sound) :
    ((decideGoal knowledge limit (levels + 1) depth goal).run.run trail).2.encoder.Sound ∧
    ∃ subgoals : List Fact,
      ((decideGoal knowledge limit (levels + 1) depth goal).run.run trail).2.encoder.concepts =
        requestAll trail.encoder.concepts (Encoder.requestsOf (goal :: subgoals)) := by
  obtain ⟨next, heq, hnext⟩ := exists_decideGoal_eq
    (fun subgoal => onlyAsks_decideGoal knowledge limit levels (depth + 1) subgoal) goal
  obtain ⟨hsound, hconcepts, -⟩ := Encoder.asks_encodeFact goal trail.encoder h
  rw [heq, run_run_bind, run_encode]
  rcases hrun : (Encoder.encodeFact goal).run.run trail.encoder with ⟨error | encoding, later⟩
  all_goals rw [hrun] at hsound hconcepts
  · exact ⟨hsound, [], by simpa [Encoder.requestsOf] using hconcepts⟩
  · obtain ⟨hlast, subgoals, hsubgoals⟩ := hnext encoding { trail with encoder := later } hsound
    refine ⟨hlast, subgoals, ?_⟩
    rw [hsubgoals, hconcepts, ← requestAll_append]
    rfl

end Search

/-- A search has at least one level. -/
lemma Machine.exists_levels (machine : Machine) : ∃ n, machine.levels = n + 1 :=
  Nat.exists_eq_add_one.mpr (Nat.zero_lt_of_lt machine.roomy)

lemma Engine.deduce_encoder {engine : Engine} {limit : Int} (hlimit : engine.depthBound = .ok limit)
    (encoder : Encoder) (knowledge : Knowledge) (goal : Fact) :
    (engine.deduce encoder knowledge goal).2.2 =
      ((decideGoal knowledge limit engine.machine.levels 0 goal).run.run { encoder }).2.encoder := by
  unfold Engine.deduce
  rw [hlimit]
  dsimp only
  rcases (decideGoal knowledge limit engine.machine.levels 0 goal).run.run { encoder } with
    ⟨(_ | _) | verdict, trail⟩ <;> rfl

lemma Engine.deduce_encoder_of_error {engine : Engine} {error : DeductionError}
    (hlimit : engine.depthBound = .error error) (encoder : Encoder) (knowledge : Knowledge)
    (goal : Fact) :
    (engine.deduce encoder knowledge goal).2.2 =
      ((Encoder.encodeFact goal).run.run encoder).2 := by
  unfold Engine.deduce
  rw [hlimit]
  dsimp only
  rcases (Encoder.encodeFact goal).run.run encoder with ⟨error | encoding, later⟩ <;> rfl

/-- **A deduction and the table.**  Whatever knowledge it is made over, and however it ends, a
deduction asks for the concepts of the question, then for those of further goals. -/
lemma Encoder.Sound.deduce {encoder : Encoder} (h : encoder.Sound) (engine : Engine)
    (knowledge : Knowledge) (goal : Fact) :
    (engine.deduce encoder knowledge goal).2.2.Sound ∧
    ∃ subgoals : List Fact, (engine.deduce encoder knowledge goal).2.2.concepts =
      requestAll encoder.concepts (Encoder.requestsOf (goal :: subgoals)) := by
  cases hlimit : engine.depthBound with
  | error error =>
      obtain ⟨hsound, hconcepts, -⟩ := Encoder.asks_encodeFact goal encoder h
      rw [Engine.deduce_encoder_of_error hlimit]
      exact ⟨hsound, [], by simpa [Encoder.requestsOf] using hconcepts⟩
  | ok limit =>
      obtain ⟨levels, hlevels⟩ := engine.machine.exists_levels
      rw [Engine.deduce_encoder hlimit, hlevels]
      exact @Search.requests_decideGoal knowledge limit levels 0 goal { encoder } h

end PrimeReasoner
