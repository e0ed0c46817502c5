import PrimeReasoner.Proofs.Collision
import PrimeReasoner.Proofs.Search.Path
import PrimeReasoner.Proofs.Text.Ascii

/-!
# Chains

In a chain, each concept is part of the next one.  Over a store that holds a chain and nothing else, the question
whether its first concept is part of its last one leads along the whole chain, and so it tells how deep the search
goes: the answer is yes exactly if the chain is at most one longer than the limit (`chain_law`).

**Numbers do not interfere.**  The numbers of facts do not remember the order of the concepts, yet no goal on the way
but the last one is found among the stored numbers: a stored fact has concepts that are neighbours, and a goal has the
last concept of the chain (`holds_iff_last`).
-/

namespace PrimeReasoner

open Text

namespace Derivation

lemma explanation_direct (goal : Fact) :
    (direct goal).explanation = s!"Direct fact in knowledge base: {goal.text}" := rfl

lemma explanation_chained (goal : Fact) (link : String) (rest : Derivation) :
    (chained goal link rest).explanation =
      s!"{goal.subject} {goal.predicate} {link}, and {rest.explanation}" := rfl

end Derivation

namespace Store

/-! ## Adding facts -/

variable {store : Store}

lemma Sound.addFact_eq (h : store.Sound) {fact : Fact} (hcomplete : fact.IsComplete) :
    ∃ n : ℕ, store.addFact fact = (.ok n, store.perform (.addFact fact)) ∧
      (store.perform (.addFact fact)).knowledge.facts = store.knowledge.facts ++ [fact] ∧
      (store.perform (.addFact fact)).knowledge.rules = store.knowledge.rules := by
  obtain ⟨n, later, hrun⟩ := (Encoder.asks_encodeFact fact).exists_ok h.encoder hcomplete
  refine ⟨n, ?_⟩
  simp [Store.perform, Store.addFact, hrun, Knowledge.withFact]

/-- **Facts without blank concepts** are all added, in order. -/
lemma Sound.addFacts_eq (h : store.Sound) {facts : List Fact} (hcomplete : ∀ fact ∈ facts, fact.IsComplete) :
    store.addFacts facts = (.ok (), store.performAll (facts.map .addFact)) ∧
      (store.performAll (facts.map .addFact)).knowledge.facts = store.knowledge.facts ++ facts ∧
      (store.performAll (facts.map .addFact)).knowledge.rules = store.knowledge.rules := by
  induction facts generalizing store with
  | nil => exact ⟨rfl, by simp [Store.performAll], rfl⟩
  | cons fact facts ih =>
      rw [List.forall_mem_cons] at hcomplete
      obtain ⟨n, hadd, hfacts, hrules⟩ := h.addFact_eq hcomplete.1
      obtain ⟨hrest, hfacts', hrules'⟩ := ih (h.perform (.addFact fact)).1 hcomplete.2
      have hrun : store.performAll ((fact :: facts).map .addFact) =
          (store.perform (.addFact fact)).performAll (facts.map .addFact) := by
        rw [Store.performAll, List.map_cons, List.foldl_cons, Store.performAll]
      rw [hrun, Store.addFacts, hadd, hfacts', hrules', hfacts, hrules]
      exact ⟨hrest, by simp, rfl⟩

end Store

namespace Chain

/-! ## The concepts of a chain -/

def place (i : ℕ) : String := s!"c{i}"

lemma toList_place (i : ℕ) : (place i).toList = 'c' :: Nat.toDigits 10 i := by
  simp [place, toString, Nat.toList_repr]

lemma isPlain_place (i : ℕ) : IsPlain (place i).toList := by
  rw [toList_place]
  refine ⟨List.cons_ne_nil _ _, List.forall_mem_cons.mpr ⟨by decide, fun c hc => ?_⟩⟩
  simp [Char.isAlphanum, Nat.isDigit_of_mem_toDigits (by decide) (by decide) hc]

lemma blank_notMem_place (i : ℕ) : ' ' ∉ (place i).toList := (isPlain_place i).isWord.blank_notMem

@[simp] lemma place_inj {i j : ℕ} : place i = place j ↔ i = j := by
  refine ⟨fun h => ?_, congrArg place⟩
  rw [← String.toList_inj, toList_place, toList_place, List.cons_inj_right] at h
  rw [← Nat.ofDigitChars_ten_toDigits (n := i), h, Nat.ofDigitChars_ten_toDigits]

@[simp] lemma place_ne_part_of (i : ℕ) : place i ≠ "part of" := by
  intro heq
  have hblank := blank_notMem_place i
  rw [heq] at hblank
  exact hblank (by decide)

@[simp] lemma normalize_place (i : ℕ) : normalize (place i) = place i := by
  have hword : Trimmed (place i).toList := by
    have hwords : ∀ word ∈ [(place i).toList], IsWord word := by simp [(isPlain_place i).isWord]
    simpa using trimmed_unwords hwords
  have hsmall : (place i).toList.map Char.toLower = (place i).toList := by
    rw [toList_place, List.map_cons, List.map_congr_left (g := id), List.map_id]
    · rfl
    · intro c hc
      have hdigit := Nat.isDigit_of_mem_toDigits (by decide) (by decide) hc
      have halnum : c.isAlphanum = true := by simp [Char.isAlphanum, hdigit]
      exact forall_ascii (P := fun c => c.isDigit = true → c.toLower = id c) (by decide +kernel)
        (toNat_lt_of_isAlphanum halnum) hdigit
  rw [← String.toList_inj, toList_normalize, hword.trim_eq]
  exact lower_of_map_toLower hsmall fun c hc => toNat_lt_of_isAlphanum ((isPlain_place i).2 c hc)

@[simp] lemma normalize_part_of : normalize "part of" = "part of" := by decide +kernel

def fact (i : ℕ) : Fact := ⟨place i, "part of", place (i + 1)⟩

/-- A goal on the way to the last concept. -/
def goal (n i : ℕ) : Fact := ⟨place i, "part of", place n⟩

lemma fact_eq (i : ℕ) : Fact.of s!"c{i}" "part of" s!"c{i + 1}" = fact i := by
  change Fact.of (place i) "part of" (place (i + 1)) = fact i
  rw [Fact.of, normalize_place, normalize_place, normalize_part_of, fact]

lemma chain_eq (n : ℕ) : Store.chain "c" "part of" n = (List.range n).map fact :=
  List.map_congr_left fun i _ => fact_eq i

lemma place_ne_empty (i : ℕ) : place i ≠ "" := by
  rw [Ne, ← String.toList_inj, toList_place]
  exact List.cons_ne_nil _ _

lemma isComplete_fact (i : ℕ) : (fact i).IsComplete := by
  rw [Fact.isComplete_iff, fact, normalize_place, normalize_place, normalize_part_of]
  exact ⟨place_ne_empty i, by decide, place_ne_empty (i + 1)⟩

lemma isComplete_goal (n i : ℕ) : (goal n i).IsComplete := by
  rw [Fact.isComplete_iff, goal, normalize_place, normalize_place, normalize_part_of]
  exact ⟨place_ne_empty i, by decide, place_ne_empty n⟩

lemma text_goal_inj {n i j : ℕ} (h : (goal n i).text = (goal n j).text) : i = j := by
  rw [← String.toList_inj, Fact.toList_text, Fact.toList_text] at h
  have hsubject := (Fact.eq_of_append_blank (blank_notMem_place i) (blank_notMem_place j) h).1
  rwa [String.toList_inj, place_inj] at hsubject

lemma filterMap_range_eq {α : Type} {n i : ℕ} (hi : i < n) (a : α) :
    ((List.range n).filterMap fun j => if j = i then some a else none) = [a] := by
  have hperm := (List.perm_cons_erase (List.mem_range.mpr hi)).filterMap fun j => if j = i then some a else none
  have hrest : (((List.range n).erase i).filterMap fun j => if j = i then some a else none) = [] := by
    rw [List.filterMap_eq_nil_iff]
    intro j hj
    exact if_neg (List.nodup_range.mem_erase_iff.mp hj).1
  rw [List.filterMap_cons, if_pos rfl, hrest] at hperm
  exact List.perm_singleton.mp hperm

/-- **A fact permutes a goal** only if it is the last one and the goal says the same. -/
lemma permutes_iff {n i j : ℕ} (hi : i < n) (hj : j < n) :
    (fact j).Permutes (goal n i) ↔ j = i ∧ i + 1 = n := by
  constructor
  · -- the concepts of the goal are `i` and `n`, those of the fact are `j` and `j + 1`
    intro hperm
    have hmem : ∀ concept ∈ [place i, "part of", place n], concept ∈ [place j, "part of", place (j + 1)] := by
      intro concept hconcept
      have hnormal : concept ∈ (goal n i).concepts.map normalize := by simpa [goal, Fact.concepts] using hconcept
      simpa [fact, Fact.concepts] using hperm.symm.subset hnormal
    have hlast : n = j ∨ n = j + 1 := by simpa using hmem (place n) (by simp)
    have hfirst : i = j ∨ i = j + 1 := by simpa using hmem (place i) (by simp)
    omega
  · rintro ⟨rfl, rfl⟩
    exact List.Perm.refl _

section Graph

variable {knowledge : Knowledge} {encoder : Encoder} {n : ℕ}
  (hfacts : knowledge.facts.Perm (Store.chain "c" "part of" n)) (hrules : knowledge.rules = [])

include hfacts

lemma mem_facts_iff {stored : Fact} : stored ∈ knowledge.facts ↔ ∃ i < n, fact i = stored := by
  rw [hfacts.mem_iff, chain_eq]
  simp

lemma knows_goal (hfits : knowledge.Fits encoder) {i : ℕ} (hi : i < n) : encoder.Knows (goal n i).concepts := by
  have hfirst := hfits.facts (fact i) ((mem_facts_iff hfacts).mpr ⟨i, hi, rfl⟩)
  have hlast := hfits.facts (fact (n - 1)) ((mem_facts_iff hfacts).mpr ⟨n - 1, by omega, rfl⟩)
  rw [fact, Nat.sub_add_cancel (by omega)] at hlast
  intro given hgiven
  simp only [goal, Fact.concepts, List.mem_cons, List.not_mem_nil, or_false] at hgiven
  rcases hgiven with rfl | rfl | rfl
  · exact hfirst _ (by simp [fact, Fact.concepts])
  · exact hfirst _ (by simp [fact, Fact.concepts])
  · exact hlast _ (by simp [Fact.concepts])

lemma holds_iff_last (hfits : knowledge.Fits encoder) (hnumbered : knowledge.Numbered encoder)
    (h : encoder.Sound) {i : ℕ} (hi : i < n) :
    knowledge.holds (encoder.code (goal n i)) = true ↔ i = n - 1 := by
  rw [hfits.holds_code_iff hnumbered h (knows_goal hfacts hfits hi)]
  constructor
  · rintro ⟨stored, hstored, hperm⟩
    obtain ⟨j, hj, rfl⟩ := (mem_facts_iff hfacts).mp hstored
    have hlast := ((permutes_iff hi hj).mp hperm).2
    omega
  · rintro rfl
    exact ⟨fact (n - 1), (mem_facts_iff hfacts).mpr ⟨n - 1, hi, rfl⟩, (permutes_iff hi hi).mpr ⟨rfl, by omega⟩⟩

include hrules

/-- There is one way from each goal, through the stored fact about its subject. -/
lemma ways_goal {i : ℕ} (hi : i < n) :
    (knowledge.graph encoder).ways (goal n i) = [.linked (place (i + 1))] := by
  have hlinks : knowledge.links (goal n i) = knowledge.facts := by
    rw [Knowledge.links, if_pos]
    exact (by decide : isTransitive "part of" = true)
  have hlink : ∀ j, linkedWay? (goal n i) (fact j) = if j = i then some (.linked (place (i + 1))) else none := by
    intro j
    by_cases hj : j = i
    · simp [linkedWay?, goal, fact, hj]
    · simp [linkedWay?, goal, fact, hj]
  have hone : ((List.range n).map fact).filterMap (linkedWay? (goal n i)) = [.linked (place (i + 1))] := by
    rw [List.filterMap_map, Function.comp_def, funext hlink]
    exact filterMap_range_eq hi _
  simp only [Knowledge.graph, hrules, List.filterMap_nil, List.nil_append, hlinks]
  rw [chain_eq] at hfacts
  exact List.perm_singleton.mp (hone ▸ hfacts.filterMap _)

lemma isPath (hfits : knowledge.Fits encoder) (hnumbered : knowledge.Numbered encoder) (h : encoder.Sound)
    (hpos : 0 < n) :
    (knowledge.graph encoder).IsPath (goal n) (fun i => place (i + 1)) (n - 1) where
  text_injective _ _ _ _ htext := text_goal_inj htext
  holds i hi := holds_iff_last hfacts hfits hnumbered h (by omega)
  ways i hi := ways_goal hfacts hrules (by omega)
  next i hi := by simp [Way.premises, goal, Fact.of]

end Graph

/-! ## Explanations -/

lemma text_goal (n i : ℕ) : (goal n i).text = s!"c{i} part of c{n}" := by
  rw [← String.toList_inj, Fact.toList_text]
  simp [goal, place, toString]

/-- The explanation of a yes: all links but the last one, and the fact at the end. -/
def explanation (n : ℕ) : String :=
  ", and ".intercalate ((List.range (n - 1)).map (fun i => s!"c{i} part of c{i + 1}") ++
    [s!"Direct fact in knowledge base: c{n - 1} part of c{n}"])

lemma explanation_along (n start steps : ℕ) :
    (Derivation.along (goal n) (fun i => place (i + 1)) start steps).explanation =
      ", and ".intercalate ((List.range' start steps).map (fun i => s!"c{i} part of c{i + 1}") ++
        [s!"Direct fact in knowledge base: c{start + steps} part of c{n}"]) := by
  induction steps generalizing start with
  | zero =>
      rw [Derivation.along, Derivation.explanation_direct, text_goal]
      rw [← String.toList_inj]
      simp [toString]
  | succ steps ih =>
      rw [Derivation.along, Derivation.explanation_chained, ih, List.range'_succ, List.map_cons, List.cons_append,
        String.intercalate_cons_of_ne_nil (by simp), Nat.add_right_comm, Nat.add_assoc]
      rw [← String.toList_inj]
      simp [goal, place, toString]

lemma explanation_eq (n : ℕ) :
    (Derivation.along (goal n) (fun i => place (i + 1)) 0 (n - 1)).explanation = explanation n := by
  rw [explanation_along, explanation, List.range_eq_range', Nat.zero_add]

lemma explanation_tooDeep (n : ℕ) :
    Refusal.tooDeep.explanation (goal n 0) = s!"Maximum reasoning depth exceeded: c0 part of c{n}" := by
  change s!"Maximum reasoning depth exceeded: {(goal n 0).text}" = _
  rw [text_goal, ← String.toList_inj]
  simp [toString]

end Chain

/-- **The chain law.**  A new store takes a chain of any length, and then has it and nothing else.  Take any store in
this state, whatever it went through and in whichever order the facts came, and ask whether the first concept is part
of the last one, with an integer from 0 to 400 as the depth limit.  The answer is yes exactly if the chain is at most
one longer than the limit.  A yes names all links in order; every goal on the way was looked into once, and nothing
else.  A no says that the search was cut off, which happened once, after as many goals as fit within the limit. -/
theorem chain_law :
    (∀ (sieveLimit : Int) (before : List Prime.Request) (n : ℕ), ∃ store : Store,
      (Store.fresh sieveLimit before).addFacts (Store.chain "c" "part of" n) = (.ok (), store) ∧
      store.IsReachable ∧ store.knowledge.facts = Store.chain "c" "part of" n ∧ store.knowledge.rules = []) ∧
    ∀ (store : Store) (n : ℕ) (engine : Engine) (limit : ℕ), store.IsReachable →
      store.knowledge.facts.Perm (Store.chain "c" "part of" n) → store.knowledge.rules = [] → 1 ≤ n →
      engine.depthLimit.number? = some (.whole limit) → limit ≤ 400 →
      let goal : Fact := ⟨"c0", "part of", s!"c{n}"⟩
      ∃ (verdict : Verdict) (effort : Effort),
        (engine.deduce store.encoder store.knowledge goal).1 = .ok verdict ∧
        (engine.deduce store.encoder store.knowledge goal).2.1.statistics =
          engine.statistics.record effort verdict ∧
        (verdict.holds = true ↔ n ≤ limit + 1) ∧
        (verdict.holds = true → verdict.explanation goal = Chain.explanation n ∧
          effort = { expanded := n, cycles := 0, cutoffs := 0, deepest := n - 1 }) ∧
        (verdict.holds = false →
          verdict.explanation goal = s!"Maximum reasoning depth exceeded: c0 part of c{n}" ∧
          effort = { expanded := limit + 1, cycles := 0, cutoffs := 1, deepest := limit + 1 }) := by
  constructor
  · intro sieveLimit before n
    have hcomplete : ∀ fact ∈ Store.chain "c" "part of" n, fact.IsComplete := by
      simp [Chain.chain_eq, Chain.isComplete_fact]
    obtain ⟨hadd, hfacts, hrules⟩ := (Store.sound_fresh sieveLimit before).addFacts_eq hcomplete
    exact ⟨_, hadd, ⟨sieveLimit, before, _, rfl⟩, hfacts, hrules⟩
  · intro store n engine limit hstore hfacts hrules hpos hlimit hle goal
    have hgoal : goal = Chain.goal n 0 := rfl
    rw [hgoal]
    have h := hstore.sound
    have hcomplete := Chain.isComplete_goal n 0
    obtain ⟨hready, hgrows, -, -⟩ := h.encoder.ready hcomplete
    obtain ⟨_, -, hdeduce⟩ := h.fits.deduce h.encoder hcomplete (Engine.depthBound_eq_ok hlimit)
    have hpath := Chain.isPath hfacts hrules (h.fits.grows h.encoder hready hgrows)
      (hstore.numbered.grows h.fits h.encoder hready hgrows) hready hpos
    have hroomy : 400 + 1 < engine.machine.levels := engine.machine.roomy
    rw [hdeduce]
    refine ⟨_, _, rfl, rfl, ?_⟩
    by_cases hlong : n ≤ limit + 1
    · rw [Engine.deepestWithin, hpath.answer_of_le (by omega) (by omega)]
      have hn : n - 1 + 1 = n := Nat.sub_add_cancel hpos
      simp [Verdict.holds, Verdict.explanation, Chain.explanation_eq, hlong, hn]
    · rw [Engine.deepestWithin, hpath.answer_of_lt (by omega) (by omega)]
      simp [Verdict.holds, Verdict.explanation, Chain.explanation_tooDeep, hlong]

theorem chain_of_three : ∃ store : Store,
    (Store.fresh 0 []).addFacts (Store.chain "c" "part of" 3) = (.ok (), store) ∧
    (∃ verdict, (({ machine := .usual, maxDepth := .int 2 } : Engine).deduce store.encoder store.knowledge
        ⟨"c0", "part of", "c3"⟩).1 = .ok verdict ∧
      verdict.explanation ⟨"c0", "part of", "c3"⟩ =
        "c0 part of c1, and c1 part of c2, and Direct fact in knowledge base: c2 part of c3") ∧
    ∃ verdict, (({ machine := .usual, maxDepth := .int 1 } : Engine).deduce store.encoder store.knowledge
        ⟨"c0", "part of", "c3"⟩).1 = .ok verdict ∧
      verdict.explanation ⟨"c0", "part of", "c3"⟩ = "Maximum reasoning depth exceeded: c0 part of c3" := by
  obtain ⟨hfill, hchain⟩ := chain_law
  obtain ⟨store, hadd, hstore, hfacts, hrules⟩ := hfill 0 [] 3
  have hperm : store.knowledge.facts.Perm (Store.chain "c" "part of" 3) := by rw [hfacts]
  have hdepth : ({ machine := .usual, maxDepth := .int 2 } : Engine).depthLimit.number? = some (.whole (2 : ℕ)) := rfl
  have hdepth' : ({ machine := .usual, maxDepth := .int 1 } : Engine).depthLimit.number? =
      some (.whole (1 : ℕ)) := rfl
  obtain ⟨verdict, _, hverdict, -, hiff, hyes, -⟩ :=
    hchain store 3 _ 2 hstore hperm hrules (by decide) hdepth (by decide)
  obtain ⟨verdict', _, hverdict', -, hiff', -, hno⟩ :=
    hchain store 3 _ 1 hstore hperm hrules (by decide) hdepth' (by decide)
  have hrefused : verdict'.holds = false := by simpa using hiff'
  exact ⟨store, hadd, ⟨verdict, hverdict, (hyes (hiff.mpr (by decide))).1⟩, verdict', hverdict', (hno hrefused).1⟩

end PrimeReasoner
