import PrimeReasoner.Proofs.Encoder.Table

/-!
# Encoding and decoding

Encoding enters concepts as it goes, so its result depends on when it is run.  What it yields is all
the same a matter of the table alone: `factCode?` and `ruleCode?` read off a table the number of a
fact and the encoded form of a rule, without entering anything.

**Asking.**  `Asks m givens value` says all there is to know about an encoding computation: it asks for
the given concepts in turn, fails exactly if one of them is blank, and otherwise yields the `value`
that the table then has, and every later table too.  The rule `Asks.bind` puts computations together.

**Known concepts.**  A computation that asks for nothing new succeeds and leaves the table as it was
(`Asks.known`); so does decoding, always (`run_decodeFact`).  A fact that is decoded from the number
of another one has the same three concepts (`exists_fact?`).
-/

namespace PrimeReasoner

/-- The second computation starts where the first one ends, unless that fails. -/
lemma run_run_bind {ε σ α β : Type} (m : ExceptT ε (StateM σ) α) (next : α → ExceptT ε (StateM σ) β)
    (state : σ) :
    (m >>= next).run.run state =
      match m.run.run state with
      | (.ok a, later) => (next a).run.run later
      | (.error error, later) => (.error error, later) := by
  rw [ExceptT.run_bind, StateT.run_bind]
  rcases m.run.run state with ⟨a | error, later⟩ <;> rfl

namespace Encoder

variable {α β : Type}

/-- The number of a fact, if its concepts are in the table. -/
def factCode? (encoder : Encoder) (fact : Fact) : Option ℕ := do
  let subject ← encoder.prime? (normalize fact.subject)
  let predicate ← encoder.prime? (normalize fact.predicate)
  let object ← encoder.prime? (normalize fact.object)
  return subject * predicate * object

/-- The numbers of several facts, if all their concepts are in the table. -/
def factCodes? (encoder : Encoder) : List Fact → Option (List Int)
  | [] => return []
  | fact :: facts => do
    let encoding ← encoder.factCode? fact
    let encodings ← encoder.factCodes? facts
    return (encoding : Int) :: encodings

/-- The encoded form of a rule, if its concepts are in the table. -/
def ruleCode? (encoder : Encoder) : Rule → Option EncodedRule
  | rule@(.quantified quantifier category property) => do
    let variablePrime ← encoder.prime? (normalize variableConcept)
    let categoryPrime ← encoder.prime? (normalize category)
    let propertyPrime ← encoder.prime? (normalize property)
    let predicatePrime ← encoder.prime? (normalize quantifier.predicate)
    let condition ← encoder.factCode? (Fact.of Rule.boundVariable "is" category)
    let conclusion ← encoder.factCode? rule.conclusion
    return .quantified quantifier variablePrime categoryPrime propertyPrime predicatePrime
      condition conclusion
  | .standard condition further conclusion => do
    let conditions ← encoder.factCodes? (condition :: further)
    let conclusion ← encoder.factCode? conclusion
    return .standard conditions conclusion

/-! ## Asking -/

/-- The computation asks for the given concepts in turn.  It fails at the first blank one; if there is
none, it yields the value that the table gives from then on. -/
def Asks (m : Encoding α) (givens : List String) (value : Encoder → Option α) : Prop :=
  ∀ encoder : Encoder, encoder.Sound →
    (m.run.run encoder).2.Sound ∧
    (m.run.run encoder).2.concepts = requestAll encoder.concepts (untilBlank givens) ∧
    match (m.run.run encoder).1 with
    | .ok a => (∀ given ∈ givens, normalize given ≠ "") ∧
        ∀ later : Encoder, later.Sound → (m.run.run encoder).2.Grows later → value later = some a
    | .error _ => ∃ given ∈ givens, normalize given = ""

lemma asks_primeOf (given : String) :
    Asks (primeOf given) [given] fun encoder => encoder.prime? (normalize given) := by
  intro encoder h
  by_cases hblank : normalize given = ""
  · rw [run_primeOf_of_blank hblank]
    exact ⟨h, by simp [untilBlank, hblank, requestAll], by simp [hblank]⟩
  · have huntil : untilBlank [given] = [given] := by simp [untilBlank, hblank]
    rw [huntil]
    cases hfound : encoder.prime? (normalize given) with
    | some prime =>
        rw [run_primeOf_of_some hblank hfound]
        have hknown := h.mem_concepts hfound
        exact ⟨h, by simp [requestAll, request, hknown], by simpa using hblank,
          fun later hlater hgrows => prime?_of_grows hlater hgrows h hfound⟩
    | none =>
        have hnew : normalize given ∉ encoder.concepts := by
          rw [h.mem_concepts_iff, hfound]
          simp
        obtain ⟨hsound, hconcepts, hprime⟩ := h.enter (normalize_normalize given) hblank hnew
        rw [run_primeOf_of_none hblank hfound]
        exact ⟨hsound, by simp [requestAll, request, hconcepts, hblank, hnew], by simpa using hblank,
          fun later hlater hgrows => prime?_of_grows hlater hgrows hsound hprime⟩

lemma Asks.pure (a : α) : Asks (Pure.pure a) [] fun _ => some a := by
  intro encoder h
  exact ⟨h, rfl, by simp, fun _ _ _ => rfl⟩

/-- **One computation after another.** -/
lemma Asks.bind {m : Encoding α} {next : α → Encoding β} {givens more : List String}
    {value : Encoder → Option α} {further : α → Encoder → Option β} (hm : Asks m givens value)
    (hnext : ∀ a, Asks (next a) more (further a)) :
    Asks (m >>= next) (givens ++ more) fun encoder => (value encoder).bind (further · encoder) := by
  intro encoder h
  obtain ⟨hsound, hconcepts, hresult⟩ := hm encoder h
  rw [run_run_bind]
  rcases hrun : m.run.run encoder with ⟨result, middle⟩
  rw [hrun] at hsound hconcepts hresult
  dsimp only at hsound hconcepts hresult
  cases result with
  | error error =>
      dsimp only at hresult
      obtain ⟨given, hgiven, hblank⟩ := hresult
      exact ⟨hsound, by rw [untilBlank_append_of_blank ⟨given, hgiven, hblank⟩]; exact hconcepts,
        given, List.mem_append_left _ hgiven, hblank⟩
  | ok a =>
      dsimp only at hresult ⊢
      obtain ⟨hgivens, hvalue⟩ := hresult
      obtain ⟨hsound', hconcepts', hresult'⟩ := hnext a middle hsound
      refine ⟨hsound', ?_, ?_⟩
      · rw [untilBlank_append hgivens, requestAll_append]
        rw [untilBlank_of_ne hgivens] at hconcepts
        exact hconcepts ▸ hconcepts'
      · have hgrows : middle.Grows ((next a).run.run middle).2 :=
          hsound.grows hsound' (hconcepts' ▸ prefix_requestAll _ _)
        revert hresult'
        cases ((next a).run.run middle).1 with
        | error error =>
            rintro ⟨given, hgiven, hblank⟩
            exact ⟨given, List.mem_append_right _ hgiven, hblank⟩
        | ok b =>
            rintro ⟨hmore, hfurther⟩
            refine ⟨fun given hgiven => ?_, fun later hlater hgrows' => ?_⟩
            · rcases List.mem_append.mp hgiven with hgiven | hgiven
              · exact hgivens given hgiven
              · exact hmore given hgiven
            · rw [hvalue later hlater (hgrows.trans hgrows'), Option.bind_some]
              exact hfurther later hlater hgrows'

lemma asks_encodeFact (fact : Fact) :
    Asks (encodeFact fact) fact.concepts fun encoder => encoder.factCode? fact :=
  (asks_primeOf fact.subject).bind fun _ => (asks_primeOf fact.predicate).bind fun _ =>
    (asks_primeOf fact.object).bind fun _ => Asks.pure _

lemma asks_encodeFacts (facts : List Fact) :
    Asks (encodeFacts facts) (facts.flatMap Fact.concepts) fun encoder => encoder.factCodes? facts := by
  induction facts with
  | nil => exact Asks.pure []
  | cons fact facts ih =>
      have hall := (asks_encodeFact fact).bind fun encoding =>
        ih.bind fun encodings => Asks.pure ((encoding : Int) :: encodings)
      rwa [List.append_nil] at hall

end Encoder

/-- The concepts of a rule, in the order in which they are asked for when it is encoded. -/
def Rule.concepts : Rule → List String
  | rule@(.quantified quantifier category property) =>
    [Encoder.variableConcept, category, property, quantifier.predicate] ++
      (Fact.of Rule.boundVariable "is" category).concepts ++ rule.conclusion.concepts
  | .standard condition further conclusion =>
    (condition :: further).flatMap Fact.concepts ++ conclusion.concepts

/-- No concept of the rule is blank. -/
def Rule.IsComplete (rule : Rule) : Prop := ∀ concept ∈ rule.concepts, normalize concept ≠ ""

namespace Encoder

lemma asks_encodeRule (rule : Rule) :
    Asks (encodeRule rule) rule.concepts fun encoder => encoder.ruleCode? rule := by
  cases rule with
  | quantified quantifier category property =>
      have hall := (asks_primeOf variableConcept).bind fun variablePrime =>
        (asks_primeOf category).bind fun categoryPrime =>
        (asks_primeOf property).bind fun propertyPrime =>
        (asks_primeOf quantifier.predicate).bind fun predicatePrime =>
        (asks_encodeFact (Fact.of Rule.boundVariable "is" category)).bind fun condition =>
        (asks_encodeFact (Rule.quantified quantifier category property).conclusion).bind
          fun conclusion => Asks.pure (EncodedRule.quantified quantifier variablePrime categoryPrime
            propertyPrime predicatePrime condition conclusion)
      exact hall
  | standard condition further conclusion =>
      have hall := (asks_encodeFacts (condition :: further)).bind fun conditions =>
        (asks_encodeFact conclusion).bind fun conclusion =>
        Asks.pure (EncodedRule.standard conditions conclusion)
      rwa [List.append_nil] at hall

/-! ## Known concepts -/

/-- The two encoders have the same table, and the second one is sound. -/
structure Same (encoder later : Encoder) : Prop where
  sound : later.Sound
  table : later.table = encoder.table

lemma Sound.same {encoder : Encoder} (h : encoder.Sound) : encoder.Same encoder := ⟨h, rfl⟩

lemma Same.trans {first second third : Encoder} (h : first.Same second) (h' : second.Same third) :
    first.Same third := ⟨h'.sound, h'.table.trans h.table⟩

lemma Same.grows {encoder later : Encoder} (h : encoder.Same later) : encoder.Grows later := by
  rw [Grows, h.table]

lemma Same.grows_symm {encoder later : Encoder} (h : encoder.Same later) : later.Grows encoder := by
  rw [Grows, h.table]

/-- All the concepts are in the table. -/
def Knows (encoder : Encoder) (givens : List String) : Prop :=
  ∀ given ∈ givens, normalize given ∈ encoder.concepts

lemma Knows.grows {encoder later : Encoder} {givens : List String} (h : encoder.Knows givens)
    (hgrows : encoder.Grows later) : later.Knows givens := fun given hgiven =>
  mem_concepts_of_grows hgrows (h given hgiven)

lemma Sound.ne_blank {encoder : Encoder} (h : encoder.Sound) {givens : List String}
    (hknows : encoder.Knows givens) : ∀ given ∈ givens, normalize given ≠ "" := fun given hgiven =>
  (h.normal _ (hknows given hgiven)).2

/-- Whether or not it succeeds, a computation only adds to the table. -/
lemma Asks.grows {m : Encoding α} {givens : List String} {value : Encoder → Option α}
    (hm : Asks m givens value) {encoder : Encoder} (h : encoder.Sound) :
    (m.run.run encoder).2.Sound ∧ encoder.Grows (m.run.run encoder).2 := by
  obtain ⟨hsound, hconcepts, -⟩ := hm encoder h
  exact ⟨hsound, h.grows hsound (hconcepts ▸ prefix_requestAll _ _)⟩

/-- What a computation that succeeds has asked for is known afterwards. -/
lemma Asks.knows {m : Encoding α} {givens : List String} {value : Encoder → Option α}
    (hm : Asks m givens value) {encoder later : Encoder} (h : encoder.Sound) {a : α}
    (hrun : m.run.run encoder = (.ok a, later)) :
    encoder.Grows later ∧ later.Sound ∧ later.Knows givens ∧
      ∀ last : Encoder, last.Sound → later.Grows last → value last = some a := by
  obtain ⟨hsound, hconcepts, hresult⟩ := hm encoder h
  rw [hrun] at hsound hconcepts hresult
  obtain ⟨hne, hvalue⟩ := hresult
  rw [untilBlank_of_ne hne] at hconcepts
  refine ⟨h.grows hsound (hconcepts ▸ prefix_requestAll _ _), hsound, fun given hgiven => ?_, hvalue⟩
  exact hconcepts ▸ mem_requestAll hgiven (hne given hgiven)

/-- A computation that asks for no blank concept succeeds. -/
lemma Asks.exists_ok {m : Encoding α} {givens : List String} {value : Encoder → Option α}
    (hm : Asks m givens value) {encoder : Encoder} (h : encoder.Sound)
    (hne : ∀ given ∈ givens, normalize given ≠ "") :
    ∃ a later, m.run.run encoder = (.ok a, later) := by
  obtain ⟨-, -, hresult⟩ := hm encoder h
  rcases hrun : m.run.run encoder with ⟨error | a, later⟩
  · rw [hrun] at hresult
    obtain ⟨given, hgiven, hblank⟩ := hresult
    exact absurd hblank (hne given hgiven)
  · exact ⟨a, later, rfl⟩

/-- **Nothing new.**  A computation that asks for known concepts only succeeds, and leaves the table
as it was. -/
lemma Asks.known {m : Encoding α} {givens : List String} {value : Encoder → Option α}
    (hm : Asks m givens value) {encoder : Encoder} (h : encoder.Sound)
    (hknows : encoder.Knows givens) :
    ∃ a later, m.run.run encoder = (.ok a, later) ∧ encoder.Same later ∧
      ∀ last : Encoder, last.Sound → encoder.Grows last → value last = some a := by
  have hne := h.ne_blank hknows
  obtain ⟨hsound, hconcepts, hresult⟩ := hm encoder h
  rw [untilBlank_of_ne hne, requestAll_of_known hknows] at hconcepts
  rcases hrun : m.run.run encoder with ⟨result, later⟩
  rw [hrun] at hsound hconcepts hresult
  have hsame : encoder.Same later :=
    ⟨hsound, by rw [hsound.table, h.table]; exact congrArg _ hconcepts⟩
  cases result with
  | error error =>
      obtain ⟨given, hgiven, hblank⟩ := hresult
      exact absurd hblank (hne given hgiven)
  | ok a =>
      exact ⟨a, later, rfl, hsame, fun last hlast hgrows =>
        hresult.2 last hlast (hsame.grows_symm.trans hgrows)⟩

/-- What a table makes of known concepts, every later one makes of them. -/
lemma Asks.stable {m : Encoding α} {givens : List String} {value : Encoder → Option α}
    (hm : Asks m givens value) {encoder later : Encoder} (h : encoder.Sound)
    (hknows : encoder.Knows givens) (hlater : later.Sound) (hgrows : encoder.Grows later) :
    value later = value encoder := by
  obtain ⟨a, _, _, _, hvalue⟩ := hm.known h hknows
  rw [hvalue later hlater hgrows, hvalue encoder h (Grows.refl encoder)]

lemma Sound.run_encodeFact {encoder : Encoder} (h : encoder.Sound) {fact : Fact}
    (hknows : encoder.Knows fact.concepts) :
    ∃ n later, (encodeFact fact).run.run encoder = (.ok n, later) ∧ encoder.Same later ∧
      encoder.factCode? fact = some n := by
  obtain ⟨n, later, hrun, hsame, hvalue⟩ := (asks_encodeFact fact).known h hknows
  exact ⟨n, later, hrun, hsame, hvalue encoder h (Grows.refl encoder)⟩

lemma factCode?_eq_some_iff {encoder : Encoder} {fact : Fact} {n : ℕ} :
    encoder.factCode? fact = some n ↔
      ∃ subject predicate object : ℕ, encoder.prime? (normalize fact.subject) = some subject ∧
        encoder.prime? (normalize fact.predicate) = some predicate ∧
        encoder.prime? (normalize fact.object) = some object ∧
        subject * predicate * object = n := by
  simp only [factCode?, Option.bind_eq_bind, Option.bind_eq_some_iff, Option.pure_def,
    Option.some.injEq]
  grind

/-! ## Reading numbers -/

/-- The fact of a number, in the table as it stands. -/
def fact? (encoder : Encoder) (n : Int) : Option Fact :=
  match n.toNat.primeFactorsList with
  | [subject, predicate, object] =>
    some (Fact.of (encoder.conceptOf subject) (encoder.conceptOf predicate)
      (encoder.conceptOf object))
  | _ => none

/-- **Decoding** reads the table and leaves it as it was. -/
lemma Sound.run_decodeFact {encoder : Encoder} (h : encoder.Sound) (n : Int) :
    ∃ later, (decodeFact n).run encoder = (encoder.fact? n, later) ∧ encoder.Same later := by
  obtain ⟨hfactors, hsource⟩ := h.source.factorize n
  refine ⟨{ encoder with source := (encoder.source.factorize n).2 }, ?_,
    ⟨hsource, h.table, h.nodup, h.normal⟩, rfl⟩
  have hrun : (factorize n).run encoder =
      (n.toNat.primeFactorsList, { encoder with source := (encoder.source.factorize n).2 }) := by
    rw [← hfactors]
    rfl
  rw [decodeFact, StateT.run_bind, hrun, fact?]
  rcases n.toNat.primeFactorsList with _ | ⟨a, _ | ⟨b, _ | ⟨c, _ | ⟨d, rest⟩⟩⟩⟩ <;> rfl

lemma fact?_congr {encoder later : Encoder} (h : encoder.Same later) : later.fact? = encoder.fact? := by
  funext n
  rw [fact?, fact?, conceptOf_congr h.table]

/-- The prime factors of the number of a fact are the primes of its concepts, in some order. -/
lemma Sound.perm_primeFactorsList {encoder : Encoder} (h : encoder.Sound) {fact : Fact} {n : ℕ}
    (hcode : encoder.factCode? fact = some n) :
    ∃ primes : List ℕ, primes.Perm n.primeFactorsList ∧
      List.Forall₂ (fun prime concept => encoder.prime? (normalize concept) = some prime)
        primes fact.concepts := by
  obtain ⟨subject, predicate, object, hsubject, hpredicate, hobject, rfl⟩ :=
    factCode?_eq_some_iff.mp hcode
  refine ⟨[subject, predicate, object], ?_, .cons hsubject (.cons hpredicate (.cons hobject .nil))⟩
  refine Nat.primeFactorsList_unique (by simp [mul_assoc]) ?_
  simp only [List.mem_cons, List.not_mem_nil, or_false]
  rintro p (rfl | rfl | rfl)
  · exact h.prime_of_prime? hsubject
  · exact h.prime_of_prime? hpredicate
  · exact h.prime_of_prime? hobject

/-- **The number of a fact is read back** as a fact with the same concepts. -/
lemma Sound.exists_fact? {encoder : Encoder} (h : encoder.Sound) {fact : Fact} {n : ℕ}
    (hcode : encoder.factCode? fact = some n) :
    ∃ read, encoder.fact? n = some read ∧
      read.concepts.Perm (fact.concepts.map normalize) := by
  obtain ⟨primes, hperm, hprimes⟩ := h.perm_primeFactorsList hcode
  have hconcepts : primes.map (fun p : ℕ => encoder.conceptOf p) = fact.concepts.map normalize := by
    rw [← List.forall₂_eq_eq_eq, List.forall₂_map_left_iff, List.forall₂_map_right_iff]
    exact hprimes.imp fun prime concept hprime => h.conceptOf_eq hprime
  have hlength : n.primeFactorsList.length = 3 := hperm.length_eq.symm.trans hprimes.length_eq
  obtain ⟨a, b, c, hfactors⟩ := List.length_eq_three.mp hlength
  refine ⟨_, by simp only [fact?, Int.toNat_natCast, hfactors]; rfl, ?_⟩
  rw [hfactors] at hperm
  have hnormal := ((hperm.map fun p : ℕ => encoder.conceptOf p).map normalize).symm
  have hstable : (fact.concepts.map normalize).map normalize = fact.concepts.map normalize := by
    simp
  rwa [hconcepts, hstable] at hnormal

end Encoder

end PrimeReasoner
