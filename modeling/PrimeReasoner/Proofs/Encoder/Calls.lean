import PrimeReasoner.Proofs.Search.Requests

/-!
# The table of concepts in every state

An encoder is used in any order: concepts, facts and rules are encoded, numbers are read, questions are
deduced over knowledge of any origin.  Meanwhile others draw on the same source of primes.  Some of
these calls fail in the middle, and what they entered until then stays.

**Calls.**  `Encoder.Call` is one use of an encoder, and `Call.Requests` says which concepts it asks
for.  A call keeps the encoder sound, and changes the concepts by its requests and by nothing else
(`Sound.call`); so does a run of calls (`Sound.runAll`).

**The table.**  From an empty table on a source in any state, a run of calls always leads to the
concepts in the order of their first request, paired with the first primes
(`table_of_first_requests`).
-/

namespace PrimeReasoner

namespace Encoder

/-- One use of an encoder. -/
inductive Call where
  | primeOf (given : String)
  | encodeFact (fact : Fact)
  | encodeRule (proposal : Proposal)
  | decodeFact (n : Int)
  /-- Answers a goal over some knowledge, which may have been made up by hand. -/
  | deduce (engine : Engine) (knowledge : Knowledge) (goal : Fact)
  /-- Somebody else uses the source of primes. -/
  | consult (request : Prime.Request)

/-- The encoder after a call, whether or not the call fails. -/
def Call.run : Call → Encoder → Encoder
  | .primeOf given, encoder => ((Encoder.primeOf given).run.run encoder).2
  | .encodeFact fact, encoder => ((Encoder.encodeFact fact).run.run encoder).2
  | .encodeRule proposal, encoder => ((Encoder.encodeProposal proposal).run.run encoder).2
  | .decodeFact n, encoder => ((Encoder.decodeFact n).run encoder).2
  | .deduce engine knowledge goal, encoder => (engine.deduce encoder knowledge goal).2.2
  | .consult request, encoder => { encoder with source := encoder.source.serve request }

/-- The encoder after several calls, in order. -/
def runAll (encoder : Encoder) (calls : List Call) : Encoder :=
  calls.foldl (fun encoder call => call.run encoder) encoder

/-- The call asks for these concepts, in this order.  Encoding stops at a blank concept; a deduction
encodes the question, then its subgoals as they come. -/
def Call.Requests : Call → List String → Prop
  | .primeOf given, requests => requests = untilBlank [given]
  | .encodeFact fact, requests => requests = untilBlank fact.concepts
  | .encodeRule (.rule rule), requests => requests = untilBlank rule.concepts
  | .encodeRule (.value _), requests => requests = []
  | .decodeFact _, requests => requests = []
  | .deduce _ _ goal, requests => ∃ subgoals, requests = requestsOf (goal :: subgoals)
  | .consult _, requests => requests = []

/-- No request of a call is blank. -/
lemma Call.Requests.ne_blank {call : Call} {requests : List String} (h : call.Requests requests) :
    ∀ given ∈ requests, normalize given ≠ "" := by
  intro given hgiven
  cases call with
  | primeOf _ => rw [h] at hgiven; exact ne_blank_of_mem_untilBlank hgiven
  | encodeFact _ => rw [h] at hgiven; exact ne_blank_of_mem_untilBlank hgiven
  | encodeRule proposal =>
      cases proposal with
      | rule _ => rw [h] at hgiven; exact ne_blank_of_mem_untilBlank hgiven
      | value _ => rw [h] at hgiven; simp at hgiven
  | decodeFact _ => rw [h] at hgiven; simp at hgiven
  | deduce _ _ _ =>
      obtain ⟨subgoals, rfl⟩ := h
      obtain ⟨_, -, hmem⟩ := List.mem_flatMap.mp hgiven
      exact ne_blank_of_mem_untilBlank hmem
  | consult _ => rw [h] at hgiven; simp at hgiven

lemma ne_blank_of_requests {calls : List Call} {requests : List (List String)}
    (h : List.Forall₂ Call.Requests calls requests) :
    ∀ given ∈ requests.flatten, normalize given ≠ "" := by
  induction h with
  | nil => simp
  | cons hcall _ ih =>
      intro given hgiven
      rcases List.mem_append.mp hgiven with hgiven | hgiven
      · exact hcall.ne_blank given hgiven
      · exact ih given hgiven

/-- **One call** keeps the encoder sound, and all it does to the concepts is to make its requests. -/
lemma Sound.call {encoder : Encoder} (h : encoder.Sound) (call : Call) :
    (call.run encoder).Sound ∧ ∃ requests, call.Requests requests ∧
      (call.run encoder).concepts = requestAll encoder.concepts requests := by
  cases call with
  | primeOf given =>
      obtain ⟨hsound, hconcepts, -⟩ := asks_primeOf given encoder h
      exact ⟨hsound, _, rfl, hconcepts⟩
  | encodeFact fact =>
      obtain ⟨hsound, hconcepts, -⟩ := asks_encodeFact fact encoder h
      exact ⟨hsound, _, rfl, hconcepts⟩
  | encodeRule proposal =>
      cases proposal with
      | rule rule =>
          obtain ⟨hsound, hconcepts, -⟩ := asks_encodeRule rule encoder h
          exact ⟨hsound, _, rfl, hconcepts⟩
      | value value => exact ⟨h, [], rfl, rfl⟩
  | decodeFact n =>
      obtain ⟨later, hrun, hsame⟩ := h.run_decodeFact n
      rw [Call.run, hrun]
      exact ⟨hsame.sound, [], rfl, concepts_congr hsame.table⟩
  | deduce engine knowledge goal =>
      obtain ⟨hsound, subgoals, hconcepts⟩ := h.deduce engine knowledge goal
      exact ⟨hsound, _, ⟨subgoals, rfl⟩, hconcepts⟩
  | consult request =>
      exact ⟨⟨h.source.serve request, h.table, h.nodup, h.normal⟩, [], rfl, rfl⟩

/-- **A run of calls**, by induction from the first one. -/
lemma Sound.runAll {encoder : Encoder} (h : encoder.Sound) (calls : List Call) :
    (encoder.runAll calls).Sound ∧ ∃ requests : List (List String),
      List.Forall₂ Call.Requests calls requests ∧
      (encoder.runAll calls).concepts = requestAll encoder.concepts requests.flatten := by
  induction calls generalizing encoder with
  | nil => exact ⟨h, [], .nil, rfl⟩
  | cons call calls ih =>
      obtain ⟨hsound, first, hfirst, hconcepts⟩ := h.call call
      obtain ⟨hlast, later, hlater, hlatest⟩ := ih hsound
      refine ⟨hlast, first :: later, .cons hfirst hlater, ?_⟩
      rw [List.flatten_cons, requestAll_append, ← hconcepts]
      exact hlatest

lemma Sound.grows_runAll {encoder : Encoder} (h : encoder.Sound) (calls : List Call) :
    encoder.Grows (encoder.runAll calls) := by
  obtain ⟨hsound, requests, -, hconcepts⟩ := h.runAll calls
  exact h.grows hsound (hconcepts ▸ prefix_requestAll _ _)

/-! ## From an empty table -/

lemma normalize_variableConcept : normalize variableConcept = variableConcept := by decide +kernel

/-- A new table holds the bound variable. -/
lemma sound_ofSource {source : Prime.Source} (h : source.Sound) :
    (ofSource source).Sound ∧
      (ofSource source).concepts = requestAll [] [variableConcept] := by
  have hempty : Encoder.Sound { source } :=
    ⟨h, rfl, List.nodup_nil, fun concept hconcept => absurd hconcept List.not_mem_nil⟩
  have hne : normalize variableConcept ≠ "" := by
    rw [normalize_variableConcept]
    decide
  obtain ⟨hsound, hconcepts, -⟩ := asks_primeOf variableConcept _ hempty
  rw [untilBlank_of_ne (by simpa using hne)] at hconcepts
  exact ⟨hsound, hconcepts⟩

/-- A new concept gets the prime whose index is the size of the table. -/
lemma Sound.run_primeOf_new {encoder : Encoder} (h : encoder.Sound) {given : String}
    (hblank : normalize given ≠ "") (hnew : normalize given ∉ encoder.concepts) :
    ((primeOf given).run.run encoder).1 = .ok (Nat.nth Nat.Prime encoder.table.length) := by
  have hnone : encoder.prime? (normalize given) = none := by
    rw [h.mem_concepts_iff, not_exists] at hnew
    exact Option.eq_none_iff_forall_ne_some.mpr hnew
  rw [run_primeOf_of_none hblank hnone, Encoder.enter]
  exact congrArg Except.ok (h.source.nth encoder.table.length).1

lemma Sound.getElem?_table {encoder : Encoder} (h : encoder.Sound) (i : ℕ) :
    encoder.table[i]? =
      encoder.concepts[i]?.map fun concept => Entry.mk concept (Nat.nth Nat.Prime i) := by
  conv_lhs => rw [h.table, tableOf, List.getElem?_mapIdx]

/-- A new table, on a source of primes that has been used by others before. -/
def fresh (sieveLimit : Int) (before : List Prime.Request) : Encoder :=
  ofSource ((Prime.Source.ofLimit sieveLimit).serveAll before)

lemma sound_fresh (sieveLimit : Int) (before : List Prime.Request) :
    (fresh sieveLimit before).Sound ∧
      (fresh sieveLimit before).concepts = requestAll [] [variableConcept] :=
  sound_ofSource (Prime.Source.sound_serveAll sieveLimit before)

/-- **The table of concepts in every state.**  Let a new table be used in any way, on a source of primes
in any state.  Then its concepts are those asked for, in the order of the first request, the bound
variable before all others; the `i`-th concept has the `i`-th prime; concepts are in their normal
spelling, and none is empty; the two look-ups are inverse to each other; a new concept gets the prime
whose index is the size of the table; and the table is the beginning of every later one. -/
theorem table_of_first_requests (sieveLimit : Int) (before : List Prime.Request)
    (calls : List Call) :
    let encoder := (fresh sieveLimit before).runAll calls
    (∃ requests : List (List String), List.Forall₂ Call.Requests calls requests ∧
      encoder.concepts = ((variableConcept :: requests.flatten).map normalize).eraseDups) ∧
    (∀ i, encoder.table[i]? =
      encoder.concepts[i]?.map fun concept => Entry.mk concept (Nat.nth Nat.Prime i)) ∧
    encoder.table.head? = some ⟨"_variable_", 2⟩ ∧
    (∀ concept ∈ encoder.concepts, normalize concept = concept ∧ concept ≠ "") ∧
    (∀ (concept : String) (prime : ℕ),
      encoder.prime? concept = some prime ↔ encoder.concept? prime = some concept) ∧
    (∀ given, normalize given ≠ "" → normalize given ∉ encoder.concepts →
      ((primeOf given).run.run encoder).1 = .ok (Nat.nth Nat.Prime encoder.table.length)) ∧
    (∀ later, encoder.table <+: (encoder.runAll later).table) := by
  intro encoder
  obtain ⟨hfresh, hfirst⟩ := sound_fresh sieveLimit before
  obtain ⟨hsound, requests, hrequests, hconcepts⟩ := hfresh.runAll calls
  have horder : encoder.concepts =
      ((variableConcept :: requests.flatten).map normalize).eraseDups := by
    rw [hconcepts, hfirst, ← requestAll_append]
    refine requestAll_eq_eraseDups fun given hgiven => ?_
    rcases List.mem_cons.mp hgiven with rfl | hgiven
    · rw [normalize_variableConcept]
      decide
    · exact ne_blank_of_requests hrequests given hgiven
  refine ⟨⟨requests, hrequests, horder⟩, hsound.getElem?_table, ?_, hsound.normal, ?_,
    fun given => hsound.run_primeOf_new, hsound.grows_runAll⟩
  · rw [List.head?_eq_getElem?, hsound.getElem?_table, horder, List.map_cons, List.eraseDups_cons,
      normalize_variableConcept, Nat.nth_prime_zero_eq_two]
    rfl
  · intro concept prime
    rw [hsound.concept?_eq_some_iff]
    constructor
    · intro hprime
      exact ⟨prime, rfl, hprime⟩
    · rintro ⟨p, hp, hprime⟩
      rwa [Nat.cast_injective hp]

end Encoder

end PrimeReasoner
