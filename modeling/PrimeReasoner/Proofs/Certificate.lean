import PrimeReasoner.Proofs.Search.Soundness
import PrimeReasoner.Proofs.Store

/-!
# A positive answer comes with a derivation

An answer with yes is put into words, and these words are those of a derivation tree.  This file says what
such a tree is, in terms of the stored facts and rules and of the numbers that the encoder gives and reads
(`Derivation.IsValid`), and that every positive answer has one, in every state of a store
(`exists_derivation_of_proved`).

The search was shown to be one on a graph; a derivation made of ways of that graph is a valid one
(`Derivation.isValid_of_proves`), because the ways are read off the stored rules and facts.
-/

namespace PrimeReasoner

/-- The encoder gives the fact this number. -/
def Encoder.Encodes (encoder : Encoder) (fact : Fact) (n : ℕ) : Prop :=
  ((Encoder.encodeFact fact).run.run encoder).1 = .ok n

/-- The encoder reads the number as this fact. -/
def Encoder.Decodes (encoder : Encoder) (n : Int) (fact : Fact) : Prop :=
  ((Encoder.decodeFact n).run encoder).1 = some fact

/-- **The rules of the calculus.**  Each node of the derivation is licensed by what is stored. -/
inductive Derivation.IsValid (encoder : Encoder) (knowledge : Knowledge) : Derivation → Prop where
  /-- The number of the goal is that of a stored fact. -/
  | direct {goal : Fact} {n : ℕ} (hgoal : encoder.Encodes goal n)
      (hstored : (n : Int) ∈ knowledge.encodings) : IsValid encoder knowledge (.direct goal)
  /-- A stored statement about a category has the goal's predicate and object, and the goal's subject is
  a member of the category. -/
  | quantified {goal : Fact} {quantifier : Quantifier} {v c p q x y : Int} {membership : Derivation}
      (hrule : .quantified quantifier v c p q x y ∈ knowledge.rules)
      (hpredicate : goal.predicate = encoder.conceptOf q) (hobject : goal.object = encoder.conceptOf p)
      (hgoal : membership.goal = Fact.of goal.subject "is" (encoder.conceptOf c))
      (hmembership : IsValid encoder knowledge membership) :
      IsValid encoder knowledge
        (.quantified goal quantifier (encoder.conceptOf c) (encoder.conceptOf p) membership)
  /-- The conclusion of a stored implication has the goal's number, and its conditions are read, in order,
  as the goals of the derivations below. -/
  | implied {goal : Fact} {n : ℕ} {conditions : List Int} {derivations : List Derivation}
      (hgoal : encoder.Encodes goal n) (hrule : .standard conditions n ∈ knowledge.rules)
      (hconditions : List.Forall₂ (fun condition derivation =>
        encoder.Decodes condition (Derivation.goal derivation)) conditions derivations)
      (hderivations : ∀ derivation ∈ derivations, IsValid encoder knowledge derivation) :
      IsValid encoder knowledge (.implied goal derivations)
  /-- The relation may be followed, and a stored fact leads from the goal's subject to a concept that is
  related to the goal's object. -/
  | chained {goal stored : Fact} {rest : Derivation}
      (htransitive : goal.predicate = "is" ∨ goal.predicate = "part of")
      (hstored : stored ∈ knowledge.facts) (hsubject : stored.subject = goal.subject)
      (hpredicate : stored.predicate = goal.predicate)
      (hgoal : rest.goal = Fact.of stored.object goal.predicate goal.object)
      (hrest : IsValid encoder knowledge rest) :
      IsValid encoder knowledge (.chained goal stored.object rest)

namespace Encoder

variable {encoder : Encoder}

lemma Sound.encodes_code (h : encoder.Sound) {fact : Fact} (hknows : encoder.Knows fact.concepts) :
    encoder.Encodes fact (encoder.code fact) := by
  obtain ⟨n, later, hrun, -, hcode⟩ := h.run_encodeFact hknows
  rw [Encodes, hrun, code, hcode, Option.getD_some]

lemma Sound.decodes_iff (h : encoder.Sound) {n : Int} {fact : Fact} :
    encoder.Decodes n fact ↔ encoder.fact? n = some fact := by
  obtain ⟨later, hrun, -⟩ := h.run_decodeFact n
  rw [Decodes, hrun]

/-- Conditions that are all read are read one by one. -/
lemma Sound.forall₂_decodes (h : encoder.Sound) {conditions : List Int} {derivations : List Derivation}
    (hread : ∀ condition ∈ conditions, encoder.Numbers condition)
    (hgoals : derivations.map Derivation.goal = conditions.filterMap encoder.fact?) :
    List.Forall₂ (fun condition derivation => encoder.Decodes condition (Derivation.goal derivation))
      conditions derivations := by
  induction conditions generalizing derivations with
  | nil =>
      obtain rfl : derivations = [] := by simpa using hgoals
      exact .nil
  | cons condition conditions ih =>
      obtain ⟨fact, hfact, -⟩ := h.fact?_of_numbers (hread condition List.mem_cons_self)
      rw [List.filterMap_cons, hfact] at hgoals
      obtain ⟨derivation, rest, rfl, hgoal, hrest⟩ := List.map_eq_cons_iff.mp hgoals
      refine .cons ?_ (ih (fun other hother => hread other (List.mem_cons_of_mem _ hother)) hrest)
      rw [h.decodes_iff, hgoal]
      exact hfact

end Encoder

/-- Derivations along the graph of the knowledge are valid. -/
lemma Derivation.isValid_of_proves {encoder : Encoder} {knowledge : Knowledge}
    (hsound : encoder.Sound) (hfits : knowledge.Fits encoder) {derivation : Derivation}
    (h : (knowledge.graph encoder).Proves derivation)
    (hknows : encoder.Knows derivation.goal.concepts) : derivation.IsValid encoder knowledge := by
  induction h with
  | direct hholds =>
      exact .direct (hsound.encodes_code hknows) (by simpa [Knowledge.graph, Knowledge.holds] using hholds)
  | @way goal way derivations hway hgoals _ ih =>
      rw [(Way.nodes_conclude hgoals 0).1] at hknows
      have hpremises := hfits.knows_premises hsound hknows hway
      have hvalid : ∀ derivation ∈ derivations, derivation.IsValid encoder knowledge := by
        intro derivation hderivation
        refine ih derivation hderivation (hpremises _ ?_)
        rw [← hgoals]
        exact List.mem_map_of_mem hderivation
      rcases Knowledge.mem_ways.mp hway with ⟨quantifier, v, c, p, q, x, y, hrule, hpredicate,
        hobject, rfl⟩ | ⟨conditions, hrule, rfl⟩ | ⟨htransitive, stored, hstored, hsubject, hpredicate, rfl⟩
      · obtain ⟨membership, rfl, hgoal⟩ := List.map_eq_singleton_iff.mp hgoals
        exact .quantified hrule hpredicate hobject hgoal (hvalid membership List.mem_cons_self)
      · exact .implied (hsound.encodes_code hknows) hrule
          (hsound.forall₂_decodes (hfits.reads hsound hrule).1 hgoals) hvalid
      · obtain ⟨rest, rfl, hgoal⟩ := List.map_eq_singleton_iff.mp hgoals
        exact .chained (by simpa [isTransitive] using htransitive) hstored hsubject hpredicate hgoal
          (hvalid rest List.mem_cons_self)

/-! ## Depths and limits -/

/-- Is the number below the integer? -/
def Number.isBelow : Number → Int → Bool
  | .whole m, n => m < n
  | .double x, n => x.isBelow n

/-- A depth within the bound is not beyond the limit. -/
lemma Engine.isBelow_eq_false_of_le {limit : Number} {depth levels : ℕ}
    (h : (depth : Int) ≤ deepestWithin levels limit) : limit.isBelow depth = false := by
  rcases limit with m | (_ | ⟨_ | _⟩ | _)
  · simpa [Number.isBelow, deepestWithin] using h
  · simpa [Number.isBelow, Double.isBelow, deepestWithin, Double.floor?] using h
  · rfl
  · simp only [deepestWithin] at h
    omega
  · rfl

/-- A result whose value can be looked at is no error. -/
lemma exists_ok_of_toOption {ε α β : Type} {result : Except ε α} {view : α → β} {b : β}
    (h : result.toOption.map view = some b) : ∃ a, result = .ok a ∧ view a = b := by
  cases result with
  | error error => simp [Except.toOption] at h
  | ok a => exact ⟨a, rfl, Option.some.inj h⟩

lemma eq_ok_of_toOption {ε α : Type} {result : Except ε α} {a : α} (h : result.toOption = some a) :
    result = .ok a := by
  obtain ⟨b, rfl, rfl⟩ : ∃ b, result = .ok b ∧ id b = a := exists_ok_of_toOption (by simpa using h)
  rfl

/-- What a graph proves it proves with a derivation that has the properties of a certificate. -/
lemma Graph.found_of_answer {graph : Graph} {limit : Int} {levels : ℕ} {goal : Fact} {derivation : Derivation}
    (h : (graph.answer limit levels goal).1 = .proved derivation) :
    derivation.goal = goal ∧ ∃ after, graph.Found limit 0 [] after [derivation] := by
  have hfinds := graph.finds_search limit levels 0 [] goal {}
  unfold Graph.answer at h
  rcases hsearch : graph.search limit levels 0 [] goal {} with ⟨_ | verdict, walk⟩
  all_goals rw [hsearch] at h hfinds
  · simp at h
  · obtain ⟨hgoal, hfound⟩ := hfinds derivation (congrArg some h)
    exact ⟨hgoal, walk.visited, hfound⟩

/-- **A positive answer is a certificate.**  If a deduction over a reachable store, with a numeric depth
limit, answers with yes, its explanation is that of a derivation of the question which is valid over
what is stored; no two goals in it read the same, and no node lies deeper than the limit. -/
theorem exists_derivation_of_proved {store : Store} (hstore : store.IsReachable) {engine : Engine}
    {limit : Number} (hlimit : engine.depthLimit.number? = some limit) {goal : Fact}
    (hcomplete : goal.IsComplete) {verdict : Verdict}
    (hverdict : (engine.deduce store.encoder store.knowledge goal).1 = .ok verdict)
    (hyes : verdict.holds = true) :
    ∃ derivation : Derivation,
      verdict.explanation goal = derivation.explanation ∧ derivation.goal = goal ∧
      derivation.IsValid (engine.deduce store.encoder store.knowledge goal).2.2 store.knowledge ∧
      ((derivation.nodes 0).map fun node => node.2.text).Nodup ∧
      ∀ node ∈ derivation.nodes 0, limit.isBelow node.1 = false := by
  obtain ⟨hsound, hfits⟩ := hstore.sound
  obtain ⟨later, hsame, hdeduce⟩ := hfits.deduce hsound hcomplete (Engine.depthBound_eq_ok hlimit)
  obtain ⟨hready, hgrows, hknows, -⟩ := hsound.ready hcomplete
  rw [hdeduce] at hverdict ⊢
  cases verdict with
  | refused reason => simp [Verdict.holds] at hyes
  | proved derivation =>
      obtain ⟨hgoal, after, hfound⟩ := Graph.found_of_answer (Except.ok.inj hverdict)
      rw [← Knowledge.graph_congr hsame] at hfound
      have hknows' : later.Knows derivation.goal.concepts := hgoal ▸ hknows.grows hsame.grows
      have hfits' := (hfits.grows hsound hready hgrows).grows hready hsame.sound hsame.grows
      obtain ⟨hproves, hwithin, hnodup, -⟩ := hfound
      rw [Derivation.nodesAll_singleton] at hwithin hnodup
      refine ⟨derivation, rfl, hgoal, ?_, hnodup, fun node hnode => ?_⟩
      · exact Derivation.isValid_of_proves hsame.sound hfits' (hproves _ List.mem_cons_self) hknows'
      · exact Engine.isBelow_eq_false_of_le (hwithin node hnode)

/-- A store over which a goal needs a link, a category and an implication with two conditions. -/
def mixedStore : Store := (Store.fresh 0 []).performAll
  [.addFact ⟨"a", "is", "b"⟩, .addFact ⟨"b", "is", "c"⟩,
    .addRule (.rule (.quantified .universal "c" "d")),
    .addRule (.rule (.standard ⟨"a", "is", "d"⟩ [⟨"a", "is", "b"⟩] ⟨"a", "has", "e"⟩))]

/-- What a deduction of its goal gives. -/
def mixedDeduction : Except DeductionError Verdict × Engine × Encoder :=
  ({ machine := .usual } : Engine).deduce mixedStore.encoder mixedStore.knowledge ⟨"a", "has", "e"⟩

theorem exists_derivation_over_mixedStore :
    ∃ (verdict : Verdict) (derivation : Derivation),
      mixedDeduction.1 = .ok verdict ∧ verdict.holds = true ∧
      verdict.explanation ⟨"a", "has", "e"⟩ = derivation.explanation ∧
      derivation.goal = ⟨"a", "has", "e"⟩ ∧
      derivation.IsValid mixedDeduction.2.2 mixedStore.knowledge ∧
      ((derivation.nodes 0).map fun node => node.2.text).Nodup ∧
      ∀ node ∈ derivation.nodes 0, (Number.whole 400).isBelow node.1 = false := by
  have hyes : mixedDeduction.1.toOption.map Verdict.holds = some true := by decide +kernel
  have hlimit : ({ machine := .usual } : Engine).depthLimit.number? = some (.whole 400) := rfl
  have hcomplete : (⟨"a", "has", "e"⟩ : Fact).IsComplete := Fact.isComplete_iff.mpr (by decide +kernel)
  obtain ⟨verdict, hverdict, hholds⟩ := exists_ok_of_toOption hyes
  obtain ⟨derivation, hderivation⟩ :=
    exists_derivation_of_proved ⟨0, [], _, rfl⟩ hlimit hcomplete hverdict hholds
  exact ⟨verdict, derivation, hverdict, hholds, hderivation⟩

end PrimeReasoner
