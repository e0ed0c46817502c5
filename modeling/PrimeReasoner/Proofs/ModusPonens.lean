import PrimeReasoner.Proofs.Derivability

/-!
# From the conditions of an implication to its conclusion

An implication is stored as the numbers of its conditions and of its conclusion.  If every condition is
answered with yes, one expects the conclusion to be answered with yes as well.  There are two reasons why it
may not be (`no_despite_conditions`).

**Readings.**  The order of the concepts in a condition is not part of its number.  What the search establishes
is the fact that the number is read as, with the concepts in the order of their primes, and that may be
another fact than the one which was given.

**Strays.**  The conditions are established in one search, which refuses what it has met before.  A condition
that was needed for an earlier one is refused, although it can be derived.

These are the only reasons.  If the facts that the conditions are read as are answered with yes, and the search
for the conclusion is neither cut off nor refuses a stray that can be derived, then the conclusion is answered
with yes (`holds_of_conditions`).
-/

namespace PrimeReasoner

namespace Store

variable {store : Store}

/-- A rule that was added is stored, under the numbers that the table has for it. -/
lemma Sound.mem_rules_addRule (h : store.Sound) {rule : Rule} {encoded : EncodedRule}
    (hadded : (store.addRule (.rule rule)).1 = .ok encoded) :
    encoded ∈ (store.addRule (.rule rule)).2.knowledge.rules ∧
      (store.addRule (.rule rule)).2.encoder.Knows rule.concepts ∧
      (store.addRule (.rule rule)).2.encoder.ruleCode? rule = some encoded := by
  unfold Store.addRule Encoder.encodeProposal at hadded ⊢
  dsimp only at hadded ⊢
  rcases hrun : (Encoder.encodeRule rule).run.run store.encoder with ⟨error | stored, later⟩
  all_goals rw [hrun] at hadded
  · simp at hadded
  · obtain rfl := Except.ok.inj hadded
    obtain ⟨-, hlater, hknows, hcode⟩ := (Encoder.asks_encodeRule rule).knows h.encoder hrun
    exact ⟨by simp [Knowledge.withRule], hknows, hcode later hlater (Encoder.Grows.refl later)⟩

/-- **Modus ponens on the graph**: the conclusion can be derived if the readings of the conditions can. -/
lemma Sound.derives_of_readings (h : store.Sound) {conditions : List Fact} {conclusion : Fact}
    (hrule : .standard (conditions.map fun given => (store.encoder.code given : Int))
      (store.encoder.code conclusion) ∈ store.knowledge.rules)
    (hconditions : ∀ given ∈ conditions, ∃ read, store.encoder.Decodes (store.encoder.code given) read ∧
      (store.knowledge.graph store.encoder).Derives read) :
    (store.knowledge.graph store.encoder).Derives conclusion := by
  refine .way (Knowledge.mem_ways.mpr (.inr (.inl ⟨_, hrule, rfl⟩))) fun premise hpremise => ?_
  obtain ⟨n, hn, hread⟩ := List.mem_filterMap.mp hpremise
  obtain ⟨given, hgiven, rfl⟩ := List.mem_map.mp hn
  obtain ⟨read, hdecodes, hderives⟩ := hconditions given hgiven
  rw [h.encoder.decodes_iff, hread] at hdecodes
  exact Option.some.inj hdecodes ▸ hderives

end Store

/-- **Modus ponens, readings and strays aside.**  An implication was added to a store in any state, and anything
was done since.  If the facts that its conditions are read as are answered with yes, each on its own, then so
is its conclusion, provided that this search is not cut off and that no goal which it refuses as met before,
other than those it is working on, can be derived. -/
theorem holds_of_conditions {earlier store : Store} (hearlier : earlier.IsReachable)
    {condition conclusion : Fact} {further : List Fact} {encoded : EncodedRule}
    (hadded : (earlier.addRule (.rule (.standard condition further conclusion))).1 = .ok encoded)
    (operations : List Store.Operation)
    (hstore : store =
      (earlier.addRule (.rule (.standard condition further conclusion))).2.performAll operations)
    {engine : Engine} {limit : Number} (hlimit : engine.depthLimit.number? = some limit)
    (hconditions : ∀ given ∈ condition :: further, ∃ n read verdict,
      store.encoder.Encodes given n ∧ store.encoder.Decodes n read ∧
      (engine.deduce store.encoder store.knowledge read).1 = .ok verdict ∧ verdict.holds = true)
    (hcutoffs : (engine.deduce store.encoder store.knowledge conclusion).2.1.statistics.effort.cutoffs =
      engine.statistics.effort.cutoffs)
    (hstrays : ∀ stray ∈ store.strays (Engine.deepestWithin engine.machine.levels limit) engine.machine.levels
      conclusion, ¬ store.Derivable stray) :
    ∃ verdict, (engine.deduce store.encoder store.knowledge conclusion).1 = .ok verdict ∧
      verdict.holds = true := by
  obtain ⟨hrule, hknows, hcode⟩ := hearlier.sound.mem_rules_addRule hadded
  obtain ⟨hmiddle, -⟩ := hearlier.sound.addRule (.rule (.standard condition further conclusion))
  obtain ⟨h, hgrows⟩ := hmiddle.performAll operations
  rw [← hstore] at h hgrows
  have hbound := Engine.depthBound_eq_ok hlimit
  -- the numbers of the implication are those of the table as it is now
  have hknows' := hknows.grows hgrows.encoder
  rw [← (Encoder.asks_encodeRule _).stable hmiddle.encoder hknows h.encoder hgrows.encoder,
    h.encoder.ruleCode?_standard hknows'] at hcode
  obtain rfl := Option.some.inj hcode
  have hgiven : ∀ given ∈ condition :: further, store.encoder.Knows given.concepts :=
    fun given hgiven concept hconcept => hknows' concept
      (List.mem_append_left _ (List.mem_flatMap.mpr ⟨given, hgiven, hconcept⟩))
  have hconclusion : store.encoder.Knows conclusion.concepts :=
    fun concept hconcept => hknows' concept (List.mem_append_right _ hconcept)
  have hderives : (store.knowledge.graph store.encoder).Derives conclusion := by
    refine h.derives_of_readings (hgrows.rules.subset hrule) fun given hmem => ?_
    obtain ⟨n, read, verdict, hn, hread, hverdict, hholds⟩ := hconditions given hmem
    obtain rfl := h.encoder.eq_code (hgiven given hmem) hn
    obtain ⟨fact, hfact, hfactKnown⟩ := h.encoder.fact?_of_numbers ⟨given, hgiven given hmem, rfl⟩
    obtain rfl : read = fact := by
      rw [h.encoder.decodes_iff, hfact] at hread
      exact (Option.some.inj hread).symm
    exact ⟨read, hread, h.derives_of_holds hbound hfactKnown hverdict hholds⟩
  exact h.holds_of_derives hbound hconclusion hderives hcutoffs hstrays

/-- A store over which one goal leads back to itself before it is established. -/
def loopStore : Store := (Store.fresh 0 []).performAll
  [.addFact ⟨"a", "r", "b"⟩, .addRule (.rule (.standard ⟨"a", "r", "c"⟩ [] ⟨"a", "r", "c"⟩)),
    .addRule (.rule (.standard ⟨"a", "r", "b"⟩ [] ⟨"a", "r", "c"⟩)), .addFact ⟨"d", "s", "e"⟩]

/-- An implication with that goal as its first condition. -/
def loopRule : Rule := .standard ⟨"a", "r", "c"⟩ [⟨"d", "s", "e"⟩] ⟨"a", "s", "d"⟩

/-- The store when the implication has been added, a call has failed and a fact has been added. -/
def loopExtended : Store := (loopStore.addRule (.rule loopRule)).2.performAll
  [.call (.primeOf " "), .addFact ⟨"b", "s", "d"⟩]

/-- The numbers of its conditions, and what they are read as. -/
def loopReadings : List (ℕ × Fact) := [(165, ⟨"a", "r", "c"⟩), (4199, ⟨"d", "s", "e"⟩)]

theorem holds_around_loop :
    (loopExtended.outcome ⟨"a", "s", "d"⟩).2.cycles ≠ 0 ∧
    ∃ verdict, (({ machine := .usual } : Engine).deduce loopExtended.encoder loopExtended.knowledge
      ⟨"a", "s", "d"⟩).1 = .ok verdict ∧ verdict.holds = true := by
  obtain ⟨hadded, hread, hcycles, hcutoffs, hstrays⟩ :
      (loopStore.addRule (.rule loopRule)).1.toOption = some (.standard [165, 4199] 663) ∧
      (∀ reading ∈ loopReadings,
        ((Encoder.encodeFact reading.2).run.run loopExtended.encoder).1.toOption = some reading.1 ∧
        ((Encoder.decodeFact reading.1).run loopExtended.encoder).1 = some reading.2 ∧
        (loopExtended.outcome reading.2).1 = some true) ∧
      (loopExtended.outcome ⟨"a", "s", "d"⟩).2.cycles ≠ 0 ∧
      (loopExtended.outcome ⟨"a", "s", "d"⟩).2.cutoffs =
        ({ machine := .usual } : Engine).statistics.effort.cutoffs ∧
      loopExtended.strays 400 Machine.usual.levels ⟨"a", "s", "d"⟩ = [] := by
    decide +kernel
  refine ⟨hcycles, ?_⟩
  simp only [Store.outcome] at hread hcutoffs
  have hearlier : loopStore.IsReachable := ⟨0, [], _, rfl⟩
  have hstore : loopExtended = (loopStore.addRule (.rule loopRule)).2.performAll _ := rfl
  have hlimit : ({ machine := .usual } : Engine).depthLimit.number? = some (.whole 400) := rfl
  have hconditions : ∀ given ∈ loopReadings.map Prod.snd, ∃ n read verdict,
      loopExtended.encoder.Encodes given n ∧ loopExtended.encoder.Decodes n read ∧
      (({ machine := .usual } : Engine).deduce loopExtended.encoder loopExtended.knowledge
        read).1 = .ok verdict ∧ verdict.holds = true := by
    intro given hgiven
    obtain ⟨reading, hreading, rfl⟩ := List.mem_map.mp hgiven
    obtain ⟨hn, hread, hyes⟩ := hread reading hreading
    obtain ⟨verdict, hverdict, hholds⟩ := exists_ok_of_toOption hyes
    exact ⟨reading.1, reading.2, verdict, eq_ok_of_toOption hn, hread, hverdict, hholds⟩
  exact holds_of_conditions hearlier (eq_ok_of_toOption hadded) _ hstore hlimit hconditions hcutoffs
    (by simp [Engine.deepestWithin, hstrays])

/-- A store with a chain whose last link came first. -/
def chainStore : Store := (Store.fresh 0 []).performAll
  [.addFact ⟨"b", "is", "c"⟩, .addFact ⟨"a", "is", "b"⟩]

/-- An implication whose condition is established along the chain, but is read as another fact. -/
def chainRule : Rule := .standard ⟨"a", "is", "c"⟩ [] ⟨"a", "r", "d"⟩

/-- A store with a fact and what follows from it. -/
def sharedStore : Store := (Store.fresh 0 []).performAll
  [.addFact ⟨"a", "r", "b"⟩, .addRule (.rule (.standard ⟨"a", "r", "b"⟩ [] ⟨"b", "s", "c"⟩))]

/-- An implication that has both as its conditions, which are read as they were given. -/
def sharedRule : Rule := .standard ⟨"b", "s", "c"⟩ [⟨"a", "r", "b"⟩] ⟨"c", "t", "d"⟩

/-- **Modus ponens fails**, for either reason alone. -/
theorem no_despite_conditions :
    ((chainStore.addRule (.rule chainRule)).1.toOption.isSome = true ∧
      (∀ given ∈ chainRule.conditions,
        ((chainStore.addRule (.rule chainRule)).2.outcome given).1 = some true) ∧
      ((chainStore.addRule (.rule chainRule)).2.outcome chainRule.conclusion).1 = some false ∧
      ((chainStore.addRule (.rule chainRule)).2.outcome chainRule.conclusion).2.cutoffs = 0) ∧
    ((sharedStore.addRule (.rule sharedRule)).1.toOption.isSome = true ∧
      (∀ given ∈ sharedRule.conditions,
        ((sharedStore.addRule (.rule sharedRule)).2.outcome given).1 = some true) ∧
      ((sharedStore.addRule (.rule sharedRule)).2.outcome sharedRule.conclusion).1 = some false ∧
      ((sharedStore.addRule (.rule sharedRule)).2.outcome sharedRule.conclusion).2.cutoffs = 0) := by
  decide +kernel

end PrimeReasoner
