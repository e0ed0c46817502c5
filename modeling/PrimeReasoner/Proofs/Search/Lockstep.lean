import PrimeReasoner.Proofs.Search.Requests

/-!
# Only the table matters

Two encoders with the same table may draw on very different sources of primes: one that was sieved far
ahead and one that knows nothing yet, one of its own and one that others have been using.  As long as both
sources are sound, the next prime and the factors of a number are the same, and nothing that is computed
with one encoder differs from what is computed with the other.

**Lockstep.**  `Lockstep R step` says that from states related by `R` a step gives the same answer and
leads to related states again.  A run of such steps is one (`Lockstep.runEach`), and so is one computation
after another (`Lockstep.bind`).

**Twins.**  The relation is `Encoder.Twin`.  Encoding, decoding and describing keep it, and along the
recursion of the search so does a whole deduction (`Engine.lockstep_deduce`), over whatever knowledge.
-/

namespace PrimeReasoner

section Lockstep

variable {σ ε α β ι : Type} {R : σ → σ → Prop}

/-- From related states, the step gives the same answer and leads to related states. -/
def Lockstep (R : σ → σ → Prop) (step : σ → α × σ) : Prop :=
  ∀ s s' : σ, R s s' → ∃ a later later', step s = (a, later) ∧ step s' = (a, later') ∧ R later later'

/-- The answers of several steps, in order, and the state afterwards. -/
def runEach (step : ι → σ → α × σ) : List ι → σ → List α × σ
  | [], s => ([], s)
  | i :: is, s =>
    let (a, later) := step i s
    let (rest, last) := runEach step is later
    (a :: rest, last)

/-- The state afterwards is the one that the steps lead to, whatever they answer. -/
lemma runEach_snd {step : ι → σ → α × σ} {take : σ → ι → σ} (h : ∀ i s, (step i s).2 = take s i)
    (is : List ι) (s : σ) : (runEach step is s).2 = is.foldl take s := by
  induction is generalizing s with
  | nil => rfl
  | cons i is ih => rw [List.foldl_cons, ← h, ← ih, runEach]

lemma Lockstep.runEach {step : ι → σ → α × σ} (h : ∀ i, Lockstep R (step i)) (is : List ι) :
    Lockstep R (runEach step is) := by
  induction is with
  | nil => exact fun s s' hs => ⟨[], s, s', rfl, rfl, hs⟩
  | cons i is ih =>
      intro s s' hs
      obtain ⟨a, middle, middle', hfirst, hfirst', hmiddle⟩ := h i s s' hs
      obtain ⟨rest, last, last', hrest, hrest', hlast⟩ := ih middle middle' hmiddle
      exact ⟨a :: rest, last, last', by simp [PrimeReasoner.runEach, hfirst, hrest],
        by simp [PrimeReasoner.runEach, hfirst', hrest'], hlast⟩

lemma Lockstep.map {step : σ → α × σ} (h : Lockstep R step) (f : α → β) :
    Lockstep R fun s => (step s).map f id := by
  intro s s' hs
  obtain ⟨a, later, later', hrun, hrun', hlater⟩ := h s s' hs
  exact ⟨f a, later, later', by simp [hrun], by simp [hrun'], hlater⟩

lemma Lockstep.bind {m : ExceptT ε (StateM σ) α} {next : α → ExceptT ε (StateM σ) β}
    (hm : Lockstep R m.run.run) (hnext : ∀ a, Lockstep R (next a).run.run) :
    Lockstep R (m >>= next).run.run := by
  intro s s' hs
  obtain ⟨result, middle, middle', hrun, hrun', hmiddle⟩ := hm s s' hs
  rw [run_run_bind, run_run_bind, hrun, hrun']
  cases result with
  | error error => exact ⟨_, middle, middle', rfl, rfl, hmiddle⟩
  | ok a => exact hnext a middle middle' hmiddle

lemma Lockstep.bindState {m : StateM σ α} {next : α → StateM σ β} (hm : Lockstep R m.run)
    (hnext : ∀ a, Lockstep R (next a).run) : Lockstep R (m >>= next).run := by
  intro s s' hs
  obtain ⟨a, middle, middle', hrun, hrun', hmiddle⟩ := hm s s' hs
  rw [StateT.run_bind, StateT.run_bind, hrun, hrun']
  exact hnext a middle middle' hmiddle

lemma lockstep_pure (a : α) : Lockstep R (pure a : ExceptT ε (StateM σ) α).run.run :=
  fun s s' hs => ⟨.ok a, s, s', rfl, rfl, hs⟩

lemma lockstep_pureState (a : α) : Lockstep R (pure a : StateM σ α).run :=
  fun s s' hs => ⟨a, s, s', rfl, rfl, hs⟩

end Lockstep

namespace Encoder

/-- The same table, on two sound sources of primes. -/
structure Twin (first second : Encoder) : Prop where
  sound : first.Sound
  same : first.Same second

/-! ## Encoding and decoding -/

/-- A new concept gets the same prime in both tables. -/
lemma Twin.enter {first second : Encoder} (h : first.Twin second) {concept : String}
    (hnormal : normalize concept = concept) (hne : concept ≠ "") (hnew : concept ∉ first.concepts) :
    (second.enter concept).1 = (first.enter concept).1 ∧
      (first.enter concept).2.Twin (second.enter concept).2 := by
  have hnew' : concept ∉ second.concepts := by rwa [concepts_congr h.same.table]
  have hprime : (second.enter concept).1 = (first.enter concept).1 := by
    have hfirst := (h.sound.source.nth first.table.length).1
    have hsecond := (h.same.sound.source.nth second.table.length).1
    rw [h.same.table] at hsecond
    simp only [Encoder.enter, h.same.table, hfirst, hsecond]
  refine ⟨hprime, (h.sound.enter hnormal hne hnew).1, (h.same.sound.enter hnormal hne hnew').1, ?_⟩
  simp only [Encoder.enter] at hprime ⊢
  rw [hprime, h.same.table]

lemma lockstep_primeOf (given : String) : Lockstep Twin (primeOf given).run.run := by
  intro first second h
  by_cases hblank : normalize given = ""
  · exact ⟨_, first, second, run_primeOf_of_blank hblank first, run_primeOf_of_blank hblank second, h⟩
  · have hlookup := congrFun (prime?_congr h.same.table) (normalize given)
    cases hfound : first.prime? (normalize given) with
    | some prime =>
        exact ⟨_, first, second, run_primeOf_of_some hblank hfound,
          run_primeOf_of_some hblank (hlookup.trans hfound), h⟩
    | none =>
        have hnew : normalize given ∉ first.concepts := by
          rw [h.sound.mem_concepts_iff, hfound]
          simp
        obtain ⟨hprime, htwin⟩ := h.enter (normalize_normalize given) hblank hnew
        rw [run_primeOf_of_none hblank hfound, run_primeOf_of_none hblank (hlookup.trans hfound), hprime]
        exact ⟨_, _, _, rfl, rfl, htwin⟩

lemma lockstep_encodeFact (fact : Fact) :
    Lockstep Twin (encodeFact fact).run.run :=
  (lockstep_primeOf fact.subject).bind fun _ => (lockstep_primeOf fact.predicate).bind fun _ =>
    (lockstep_primeOf fact.object).bind fun _ => lockstep_pure _

lemma lockstep_encodeFacts (facts : List Fact) :
    Lockstep Twin (encodeFacts facts).run.run := by
  induction facts with
  | nil => exact lockstep_pure []
  | cons fact facts ih =>
      exact (lockstep_encodeFact fact).bind fun _ => ih.bind fun _ => lockstep_pure _

lemma lockstep_encodeProposal (proposal : Proposal) :
    Lockstep Twin (encodeProposal proposal).run.run := by
  cases proposal with
  | rule rule =>
      cases rule with
      | quantified quantifier category property =>
          exact (lockstep_primeOf variableConcept).bind fun _ => (lockstep_primeOf category).bind fun _ =>
            (lockstep_primeOf property).bind fun _ => (lockstep_primeOf quantifier.predicate).bind fun _ =>
            (lockstep_encodeFact _).bind fun _ => (lockstep_encodeFact _).bind fun _ => lockstep_pure _
      | standard condition further conclusion =>
          exact (lockstep_encodeFacts (condition :: further)).bind fun _ =>
            (lockstep_encodeFact conclusion).bind fun _ => lockstep_pure _
  | value value => exact fun first second h => ⟨_, first, second, rfl, rfl, h⟩

lemma lockstep_decodeFact (n : Int) : Lockstep Twin (decodeFact n).run := by
  intro first second h
  obtain ⟨later, hrun, hlater⟩ := h.sound.run_decodeFact n
  obtain ⟨later', hrun', hlater'⟩ := h.same.sound.run_decodeFact n
  rw [fact?_congr h.same] at hrun'
  exact ⟨_, later, later', hrun, hrun', hlater.sound, hlater'.sound,
    by rw [hlater'.table, h.same.table, hlater.table]⟩

lemma lockstep_decodeFacts (ns : List Int) :
    Lockstep Twin (decodeFacts ns).run := by
  induction ns with
  | nil => exact lockstep_pureState []
  | cons n ns ih =>
      exact (lockstep_decodeFact n).bindState fun _ => ih.bindState fun _ => lockstep_pureState _

lemma lockstep_describe (rule : EncodedRule) :
    Lockstep Twin (describe rule).run := by
  cases rule with
  | quantified quantifier _ categoryPrime propertyPrime _ _ _ =>
      intro first second h
      refine ⟨_, first, second, rfl, ?_, h⟩
      rw [← conceptOf_congr h.same.table]
      rfl
  | standard conditions conclusion =>
      refine (lockstep_decodeFacts conditions).bindState fun _ =>
        (lockstep_decodeFact conclusion).bindState fun _ => ?_
      split
      · exact lockstep_pureState _
      · exact lockstep_pureState _
  | unrecognised => exact lockstep_pureState _

end Encoder

lemma Store.lockstep_describeAll (rules : List EncodedRule) :
    Lockstep Encoder.Twin (describeAll rules).run := by
  induction rules with
  | nil => exact lockstep_pureState []
  | cons rule rules ih =>
      exact (Encoder.lockstep_describe rule).bindState fun _ => ih.bindState fun _ => lockstep_pureState _

/-! ## The search -/

/-- The same trail but for the encoders, which are twins. -/
structure Trail.Twin (first second : Trail) : Prop where
  encoder : first.encoder.Twin second.encoder
  visited : second.visited = first.visited
  looped : second.looped = first.looped
  effort : second.effort = first.effort

namespace Search

variable {α : Type}

/-- A computation that starts by looking at the trail, but not at the source of primes. -/
lemma lockstep_get {body : Trail → Search α}
    (hsame : ∀ first second : Trail, first.Twin second → body second = body first)
    (hbody : ∀ trail, Lockstep Trail.Twin (body trail).run.run) :
    Lockstep Trail.Twin (get >>= body).run.run := by
  intro first second h
  have hstep := hbody first first second h
  rw [run_run_bind, run_run_bind]
  change ∃ a later later', (body first).run.run first = (a, later) ∧
    (body second).run.run second = (a, later') ∧ later.Twin later'
  rwa [hsame first second h]

lemma lockstep_modify {update : Trail → Trail}
    (h : ∀ first second : Trail, first.Twin second → (update first).Twin (update second)) :
    Lockstep Trail.Twin (modify update : Search Unit).run.run :=
  fun first second htwin => ⟨_, _, _, rfl, rfl, h first second htwin⟩

lemma lockstep_encode (goal : Fact) : Lockstep Trail.Twin (encode goal).run.run := by
  intro first second h
  obtain ⟨result, later, later', hrun, hrun', htwin⟩ := Encoder.lockstep_encodeFact goal _ _ h.encoder
  rw [run_encode, run_encode, hrun, hrun']
  cases result <;> exact ⟨_, _, _, rfl, rfl, htwin, h.visited, h.looped, h.effort⟩

lemma lockstep_decode (n : Int) : Lockstep Trail.Twin (decode n).run.run := by
  intro first second h
  obtain ⟨result, later, later', hrun, hrun', htwin⟩ := Encoder.lockstep_decodeFact n _ _ h.encoder
  rw [run_decode, run_decode, hrun, hrun']
  exact ⟨_, _, _, rfl, rfl, htwin, h.visited, h.looped, h.effort⟩

section Ways

variable {prove : Fact → Search Verdict} (hprove : ∀ goal, Lockstep Trail.Twin (prove goal).run.run)

include hprove

lemma lockstep_viaQuantified (goal : Fact) (rules : List EncodedRule) :
    Lockstep Trail.Twin (viaQuantified prove goal rules).run.run := by
  induction rules with
  | nil => exact lockstep_pure none
  | cons rule rules ih =>
      cases rule with
      | quantified quantifier _ categoryPrime propertyPrime predicatePrime _ _ =>
          refine lockstep_get (fun first second h => ?_) fun trail => ?_
          · simp only [Encoder.conceptOf_congr h.encoder.same.table]
          · dsimp only
            split_ifs
            · refine (hprove _).bind fun verdict => ?_
              cases verdict with
              | proved membership => exact lockstep_pure _
              | refused reason => exact ih
            · exact ih
      | standard conditions conclusion => exact ih
      | unrecognised => exact ih

lemma lockstep_proveAll (encodings : List Int) :
    Lockstep Trail.Twin (proveAll prove encodings).run.run := by
  induction encodings with
  | nil => exact lockstep_pure _
  | cons encoding encodings ih =>
      refine (lockstep_decode encoding).bind fun condition => ?_
      cases condition with
      | none => exact lockstep_pure none
      | some condition =>
          refine (hprove condition).bind fun verdict => ?_
          cases verdict with
          | refused reason => exact lockstep_pure none
          | proved derivation => exact ih.bind fun derivations => lockstep_pure _

lemma lockstep_viaStandard (goal : Fact) (encoding : ℕ) (rules : List EncodedRule) :
    Lockstep Trail.Twin (viaStandard prove goal encoding rules).run.run := by
  induction rules with
  | nil => exact lockstep_pure none
  | cons rule rules ih =>
      cases rule with
      | quantified => exact ih
      | standard conditions conclusion =>
          rw [viaStandard]
          split_ifs
          · refine (lockstep_proveAll hprove conditions).bind fun derivations => ?_
            cases derivations with
            | some derivations => exact lockstep_pure _
            | none => exact ih
          · exact ih
      | unrecognised => exact ih

lemma lockstep_viaChain (goal : Fact) (facts : List Fact) :
    Lockstep Trail.Twin (viaChain prove goal facts).run.run := by
  induction facts with
  | nil => exact lockstep_pure none
  | cons stored facts ih =>
      rw [viaChain]
      split_ifs
      · refine (hprove _).bind fun verdict => ?_
        cases verdict with
        | proved rest => exact lockstep_pure _
        | refused reason => exact ih
      · exact ih

omit hprove in
lemma lockstep_orElse {way : Search (Option Derivation)} {next : Search Verdict}
    (hway : Lockstep Trail.Twin way.run.run) (hnext : Lockstep Trail.Twin next.run.run) :
    Lockstep Trail.Twin (orElse way next).run.run := by
  refine hway.bind fun found => ?_
  cases found with
  | some derivation => exact lockstep_pure _
  | none => exact hnext

lemma lockstep_expand (knowledge : Knowledge) (goal : Fact) (encoding : ℕ) :
    Lockstep Trail.Twin (expand prove knowledge goal encoding).run.run := by
  refine lockstep_get (fun first second h => by rw [h.effort]) fun trail => ?_
  have hlinks : Lockstep Trail.Twin (if isTransitive goal.predicate then
      viaChain prove goal knowledge.facts else return none : Search (Option Derivation)).run.run := by
    split_ifs
    · exact lockstep_viaChain hprove goal knowledge.facts
    · exact lockstep_pure none
  by_cases hheld : knowledge.holds encoding = true
  · rw [if_pos hheld]
    exact lockstep_pure _
  · rw [if_neg hheld]
    refine lockstep_orElse (lockstep_viaQuantified hprove goal _) (lockstep_orElse
      (lockstep_viaStandard hprove goal encoding _) (lockstep_orElse hlinks ?_))
    refine lockstep_get (fun first second h => ?_) fun later => lockstep_pure _
    rw [refusalFor, refusalFor, h.effort, h.looped]

end Ways

/-- **The search looks at the table only**, by induction on the levels. -/
lemma lockstep_decideGoal (knowledge : Knowledge) (limit : Int) (levels depth : ℕ) (goal : Fact) :
    Lockstep Trail.Twin (decideGoal knowledge limit levels depth goal).run.run := by
  induction levels generalizing depth goal with
  | zero => exact fun first second h => ⟨_, first, second, rfl, rfl, h⟩
  | succ levels ih =>
      refine (lockstep_encode goal).bind fun encoding => ?_
      refine (lockstep_modify fun first second h => ?_).bind fun _ => ?_
      · exact ⟨h.encoder, h.visited, h.looped, by simp [h.effort]⟩
      refine lockstep_get (fun first second h => by rw [h.visited]) fun trail => ?_
      split_ifs
      · refine (lockstep_modify fun first second h => ?_).bind fun _ => lockstep_pure _
        exact ⟨h.encoder, h.visited, by simp [h.looped], by simp [h.effort]⟩
      · refine (lockstep_modify fun first second h => ?_).bind fun _ =>
          (lockstep_modify fun first second h => ?_).bind fun _ => lockstep_pure _
        · exact ⟨h.encoder, by simp [h.visited], h.looped, h.effort⟩
        · exact ⟨h.encoder, h.visited, h.looped, by simp [h.effort]⟩
      · refine (lockstep_modify fun first second h => ?_).bind fun _ =>
          (lockstep_modify fun first second h => ?_).bind fun _ => ?_
        · exact ⟨h.encoder, by simp [h.visited], h.looped, h.effort⟩
        · exact ⟨h.encoder, h.visited, h.looped, by simp [h.effort]⟩
        · exact lockstep_expand (ih (depth + 1)) knowledge goal encoding

end Search

/-- **A deduction looks at the table only**: the answer and the account are the same for twins. -/
theorem Engine.lockstep_deduce (engine : Engine) (knowledge : Knowledge) (goal : Fact)
    {first second : Encoder} (h : first.Twin second) :
    ∃ result counted later later', engine.deduce first knowledge goal = (result, counted, later) ∧
      engine.deduce second knowledge goal = (result, counted, later') ∧ later.Twin later' := by
  unfold Engine.deduce
  cases engine.depthBound with
  | error error =>
      obtain ⟨result, later, later', hrun, hrun', htwin⟩ :=
        Encoder.lockstep_encodeFact goal first second h
      dsimp only
      rw [hrun, hrun']
      cases result <;> exact ⟨_, _, later, later', rfl, rfl, htwin⟩
  | ok limit =>
      obtain ⟨result, trail, trail', hrun, hrun', htwin⟩ :=
        Search.lockstep_decideGoal knowledge limit engine.machine.levels 0 goal { encoder := first }
          { encoder := second } ⟨h, rfl, rfl, rfl⟩
      dsimp only
      rw [hrun, hrun']
      rcases result with (error | _) | verdict
      · exact ⟨_, _, _, _, rfl, rfl, htwin.encoder⟩
      · exact ⟨_, _, _, _, rfl, by rw [← htwin.effort], htwin.encoder⟩
      · exact ⟨_, _, _, _, rfl, by rw [← htwin.effort], htwin.encoder⟩

end PrimeReasoner
