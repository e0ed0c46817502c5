import PrimeReasoner.Proofs.Encoder.Calls

/-!
# A concept keeps its spelling

Every layer normalizes a concept anew, though most of them are handed one that has been through it already.  Had a
concept two spellings, each of them would be given a prime, and facts about the one would say nothing about the other.
It has not: the normal spelling of a concept is its own normal spelling.

**Facts.**  Building a fact from the concepts of another one gives that fact back (`Fact.IsNormal.of_concepts`).

**Primes.**  An encoder takes a normal concept as it stands (`Encoder.KeepsSpelling`): under this spelling it finds the
concept, under this spelling it enters it, and this is what the prime is read as (`Encoder.Sound.keepsSpelling`).  To ask
for a concept in any other spelling comes to the same (`Encoder.run_primeOf_normalize`).
-/

namespace PrimeReasoner

/-- **A fact is built from its own concepts.** -/
lemma Fact.IsNormal.of_concepts {fact : Fact} (h : fact.IsNormal) :
    Fact.of fact.subject fact.predicate fact.object = fact := by
  simp only [Fact.IsNormal, Fact.concepts, List.forall_mem_cons] at h
  obtain ⟨hsubject, hpredicate, hobject, -⟩ := h
  rw [Fact.of, hsubject, hpredicate, hobject]

namespace Encoder

/-- Who asks for the concept asks for it in this spelling.  The empty one is refused as it is shown, without a trace;
any other one is known from then on, its prime is read as the concept itself, and nothing else is entered. -/
def KeepsSpelling (encoder : Encoder) (concept : String) : Prop :=
  if concept = "" then (primeOf concept).run.run encoder = (.error (.emptyConcept concept), encoder)
  else ∃ (prime : ℕ) (later : Encoder), (primeOf concept).run.run encoder = (.ok prime, later) ∧
    later.prime? concept = some prime ∧ later.conceptOf prime = concept ∧
    later.concepts =
      if concept ∈ encoder.concepts then encoder.concepts else encoder.concepts ++ [concept]

/-- A concept that is not blank may be asked for in any spelling. -/
lemma run_primeOf_normalize {given : String} (hblank : normalize given ≠ "") (encoder : Encoder) :
    (primeOf (normalize given)).run.run encoder = (primeOf given).run.run encoder := by
  have hblank' : normalize (normalize given) ≠ "" := by rwa [normalize_normalize]
  cases hfound : encoder.prime? (normalize given) with
  | some prime =>
      rw [run_primeOf_of_some hblank hfound,
        run_primeOf_of_some hblank' (by rwa [normalize_normalize])]
  | none =>
      rw [run_primeOf_of_none hblank hfound,
        run_primeOf_of_none hblank' (by rwa [normalize_normalize]), normalize_normalize]

/-- **A normal concept is taken as it stands.** -/
lemma Sound.keepsSpelling {encoder : Encoder} (h : encoder.Sound) {concept : String}
    (hnormal : normalize concept = concept) : encoder.KeepsSpelling concept := by
  unfold KeepsSpelling
  by_cases hempty : concept = ""
  · rw [if_pos hempty]
    exact run_primeOf_of_blank (hnormal.trans hempty) encoder
  · rw [if_neg hempty]
    have hblank : normalize concept ≠ "" := by rwa [hnormal]
    have hasks := asks_primeOf concept
    obtain ⟨prime, later, hrun⟩ := hasks.exists_ok h (by simpa using hblank)
    obtain ⟨-, hlater, -, hvalue⟩ := hasks.knows h hrun
    have hprime : later.prime? concept = some prime := by
      simpa [hnormal] using hvalue later hlater (Grows.refl later)
    have hconcepts : later.concepts = requestAll encoder.concepts (untilBlank [concept]) := by
      have := (hasks encoder h).2.1
      rwa [hrun] at this
    refine ⟨prime, later, hrun, hprime, hlater.conceptOf_eq hprime, ?_⟩
    simp [hconcepts, untilBlank, requestAll, request, hnormal, hempty]

end Encoder

/-- **Normalizing is stable.**  A second pass changes no text, and nothing is left exactly of a text of white space.
So a fact is built again from its own concepts, and whatever an encoder has been used for, it takes each of them in the
spelling that it has. -/
theorem normal_spelling_stable (given : String) :
    normalize (normalize given) = normalize given ∧
    (normalize given = "" ↔ ∀ c ∈ given.toList, Text.isBlank c = true) ∧
    (normalize given ≠ "" → ∀ encoder : Encoder,
      (Encoder.primeOf (normalize given)).run.run encoder = (Encoder.primeOf given).run.run encoder) ∧
    ∀ subject predicate object : String,
      let fact := Fact.of subject predicate object
      Fact.of fact.subject fact.predicate fact.object = fact ∧
      ∀ concept ∈ fact.concepts,
        ∀ (sieveLimit : ℤ) (before : List Prime.Request) (calls : List Encoder.Call),
          ((Encoder.fresh sieveLimit before).runAll calls).KeepsSpelling concept := by
  refine ⟨normalize_normalize given, normalize_eq_empty_iff, Encoder.run_primeOf_normalize, ?_⟩
  intro subject predicate object fact
  have hnormal : fact.IsNormal := Fact.isNormal_of subject predicate object
  refine ⟨hnormal.of_concepts, fun concept hconcept sieveLimit before calls => ?_⟩
  have h := ((Encoder.sound_fresh sieveLimit before).1.runAll calls).1
  exact h.keepsSpelling (hnormal concept hconcept)

/-- A word that ends in a capital sigma, between a tab and a wide blank. -/
def sigmaWord : String := "\tΟΔΟΣ\u3000"

/-- The sigma becomes a final one, and stays so. -/
theorem stable_with_final_sigma :
    normalize sigmaWord = "οδος" ∧ normalize "οδος" = "οδος" ∧
    ((Encoder.primeOf "οδος").run.run (Encoder.fresh 0 [])).1 =
      ((Encoder.primeOf sigmaWord).run.run (Encoder.fresh 0 [])).1 ∧
    (Encoder.fresh 0 []).KeepsSpelling "οδος" := by
  have hspelling : normalize sigmaWord = "οδος" := by decide +kernel
  obtain ⟨hstable, -, hsame, hfacts⟩ := normal_spelling_stable sigmaWord
  have hconcept : "οδος" ∈ (Fact.of sigmaWord "is" "İ").concepts := by
    rw [← hspelling]
    exact List.mem_cons_self
  rw [hspelling] at hstable hsame
  exact ⟨hspelling, hstable, congrArg Prod.fst (hsame (by decide) _),
    (hfacts sigmaWord "is" "İ").2 _ hconcept 0 [] []⟩

end PrimeReasoner
