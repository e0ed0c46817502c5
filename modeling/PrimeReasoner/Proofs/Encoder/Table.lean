import Mathlib.Data.List.Nodup
import PrimeReasoner.Encoder
import PrimeReasoner.Proofs.Fact
import PrimeReasoner.Proofs.Prime.Source

/-!
# The table of concepts

The table is written in one place only, when `primeOf` meets a concept that it does not hold yet.
This file says what that one step does, and what every reader may rely on.

**The invariant.**  In a sound encoder (`Encoder.Sound`) the table is its list of concepts paired
with the first primes (`tableOf`): there is no gap, no concept stands twice, and every one is in its
normal spelling.  So looking up a prime and looking up a concept are inverse to each other
(`Sound.concept?_eq_some_iff`).

**Requests.**  `request` is what asking for one concept does to the list of concepts: a new one is put
at the end, and nothing else ever happens.  `requestAll` asks for several, up to the first blank one,
at which the computation fails.

**Growth.**  A later table has every earlier one at its beginning, so what an earlier one says stays
true (`prime?_of_grows`, `mem_concepts_of_grows`).
-/

namespace PrimeReasoner

/-- The concepts with the first primes, in order. -/
noncomputable def tableOf (concepts : List String) : List Entry :=
  concepts.mapIdx fun i concept => ⟨concept, Nat.nth Nat.Prime i⟩

@[simp] lemma length_tableOf (concepts : List String) :
    (tableOf concepts).length = concepts.length := by simp [tableOf]

@[simp] lemma map_concept_tableOf (concepts : List String) :
    (tableOf concepts).map Entry.concept = concepts := by
  apply List.ext_getElem
  · simp
  · simp [tableOf]

lemma tableOf_concat (concepts : List String) (concept : String) :
    tableOf (concepts ++ [concept]) =
      tableOf concepts ++ [⟨concept, Nat.nth Nat.Prime concepts.length⟩] := by
  simp [tableOf, List.mapIdx_append]

lemma isPrefix_tableOf {concepts later : List String} (h : concepts <+: later) :
    tableOf concepts <+: tableOf later := by
  obtain ⟨more, rfl⟩ := h
  rw [tableOf, tableOf, List.mapIdx_append]
  exact List.prefix_append _ _

/-- No prime stands twice in the table. -/
lemma nodup_map_prime_tableOf (concepts : List String) :
    ((tableOf concepts).map Entry.prime).Nodup := by
  have hprimes : (tableOf concepts).map Entry.prime =
      (List.range concepts.length).map (Nat.nth Nat.Prime) := by
    apply List.ext_getElem
    · simp
    · simp [tableOf]
  rw [hprimes]
  exact List.nodup_range.map (Nat.nth_injective Nat.infinite_setOfPred_prime)

lemma prime_of_mem_tableOf {concepts : List String} {entry : Entry}
    (h : entry ∈ tableOf concepts) : entry.prime.Prime := by
  rw [tableOf, List.mem_mapIdx] at h
  obtain ⟨i, -, rfl⟩ := h
  exact Nat.prime_nth_prime i

namespace Encoder

/-- The concepts of the table, in order. -/
def concepts (encoder : Encoder) : List String := encoder.table.map Entry.concept

/-- **The table pairs concepts with the first primes.** -/
structure Sound (encoder : Encoder) : Prop where
  /-- The source hands out the right primes. -/
  source : encoder.source.Sound
  /-- The concept in a place has the prime of that place. -/
  table : encoder.table = tableOf encoder.concepts
  /-- No concept stands twice. -/
  nodup : encoder.concepts.Nodup
  /-- Concepts are in their normal spelling. -/
  normal : ∀ concept ∈ encoder.concepts, normalize concept = concept ∧ concept ≠ ""

/-- The table of one encoder is the beginning of that of another. -/
def Grows (encoder later : Encoder) : Prop := encoder.table <+: later.table

lemma Grows.refl (encoder : Encoder) : encoder.Grows encoder := List.prefix_rfl

lemma Grows.trans {first second third : Encoder} (h : first.Grows second) (h' : second.Grows third) :
    first.Grows third := List.IsPrefix.trans h h'

lemma Sound.grows {encoder later : Encoder} (h : encoder.Sound) (h' : later.Sound)
    (hconcepts : encoder.concepts <+: later.concepts) : encoder.Grows later := by
  unfold Grows
  rw [h.table, h'.table]
  exact isPrefix_tableOf hconcepts

/-! ## Looking up -/

lemma find?_map_eq_some_iff {α κ β : Type} [BEq κ] [LawfulBEq κ] {entries : List α} {key : α → κ}
    {value : α → β} (hnodup : (entries.map key).Nodup) {k : κ} {v : β} :
    (entries.find? fun entry => key entry == k).map value = some v ↔
      ∃ entry ∈ entries, key entry = k ∧ value entry = v := by
  induction entries with
  | nil => simp
  | cons first entries ih =>
      rw [List.map_cons, List.nodup_cons] at hnodup
      by_cases hfirst : key first = k
      · subst hfirst
        have hlone : ∀ entry ∈ entries, key entry ≠ key first := fun entry hentry heq =>
          hnodup.1 (heq ▸ List.mem_map_of_mem hentry)
        simp only [List.find?_cons, beq_self_eq_true, Option.map_some, Option.some.injEq]
        constructor
        · intro hv
          exact ⟨first, List.mem_cons_self, rfl, hv⟩
        · rintro ⟨entry, hentry, hkey, hv⟩
          rcases List.mem_cons.mp hentry with rfl | hentry
          · exact hv
          · exact absurd hkey (hlone entry hentry)
      · simp only [List.find?_cons, beq_eq_false_iff_ne.mpr hfirst, List.mem_cons,
          exists_eq_or_imp, hfirst, false_and, false_or]
        exact ih hnodup.2

lemma Sound.prime?_eq_some_iff {encoder : Encoder} (h : encoder.Sound) {concept : String}
    {prime : ℕ} : encoder.prime? concept = some prime ↔ ⟨concept, prime⟩ ∈ encoder.table := by
  rw [prime?, find?_map_eq_some_iff h.nodup]
  constructor
  · rintro ⟨⟨_, _⟩, hentry, rfl, rfl⟩
    exact hentry
  · intro hentry
    exact ⟨_, hentry, rfl, rfl⟩

/-- **The two look-ups are inverse to each other.** -/
lemma Sound.concept?_eq_some_iff {encoder : Encoder} (h : encoder.Sound) {prime : Int}
    {concept : String} :
    encoder.concept? prime = some concept ↔
      ∃ p : ℕ, prime = p ∧ encoder.prime? concept = some p := by
  have hnodup : (encoder.table.map fun entry => (entry.prime : Int)).Nodup := by
    rw [h.table, ← Function.comp_def (fun n : ℕ => (n : Int)), ← List.map_map]
    exact (nodup_map_prime_tableOf _).map Nat.cast_injective
  rw [concept?, find?_map_eq_some_iff hnodup]
  constructor
  · rintro ⟨entry, hentry, rfl, rfl⟩
    exact ⟨entry.prime, rfl, h.prime?_eq_some_iff.mpr hentry⟩
  · rintro ⟨p, rfl, hp⟩
    exact ⟨_, h.prime?_eq_some_iff.mp hp, rfl, rfl⟩

/-- The prime of a concept leads back to it. -/
lemma Sound.conceptOf_eq {encoder : Encoder} (h : encoder.Sound) {concept : String} {prime : ℕ}
    (hprime : encoder.prime? concept = some prime) : encoder.conceptOf prime = concept := by
  have hconcept : encoder.concept? prime = some concept :=
    h.concept?_eq_some_iff.mpr ⟨prime, rfl, hprime⟩
  rw [conceptOf, hconcept, Option.getD_some]

lemma Sound.mem_concepts_iff {encoder : Encoder} (h : encoder.Sound) {concept : String} :
    concept ∈ encoder.concepts ↔ ∃ prime, encoder.prime? concept = some prime := by
  rw [concepts, List.mem_map]
  constructor
  · rintro ⟨entry, hentry, rfl⟩
    exact ⟨entry.prime, h.prime?_eq_some_iff.mpr hentry⟩
  · rintro ⟨prime, hprime⟩
    exact ⟨_, h.prime?_eq_some_iff.mp hprime, rfl⟩

lemma Sound.mem_concepts {encoder : Encoder} (h : encoder.Sound) {concept : String} {prime : ℕ}
    (hprime : encoder.prime? concept = some prime) : concept ∈ encoder.concepts :=
  h.mem_concepts_iff.mpr ⟨prime, hprime⟩

lemma Sound.prime_of_prime? {encoder : Encoder} (h : encoder.Sound) {concept : String} {prime : ℕ}
    (hprime : encoder.prime? concept = some prime) : prime.Prime := by
  have hentry := h.prime?_eq_some_iff.mp hprime
  rw [h.table] at hentry
  exact prime_of_mem_tableOf hentry

/-- What a table says of a concept stays true as the table grows. -/
lemma prime?_of_grows {encoder later : Encoder} (h : later.Sound) (hgrows : encoder.Grows later)
    (hsound : encoder.Sound) {concept : String} {prime : ℕ}
    (hprime : encoder.prime? concept = some prime) : later.prime? concept = some prime :=
  h.prime?_eq_some_iff.mpr (hgrows.subset (hsound.prime?_eq_some_iff.mp hprime))

lemma mem_concepts_of_grows {encoder later : Encoder} (hgrows : encoder.Grows later)
    {concept : String} (h : concept ∈ encoder.concepts) : concept ∈ later.concepts :=
  (List.IsPrefix.map Entry.concept hgrows).subset h

/-- Look-ups depend on the table only. -/
lemma conceptOf_congr {encoder other : Encoder} (h : encoder.table = other.table) :
    encoder.conceptOf = other.conceptOf := by
  funext prime
  rw [conceptOf, conceptOf, concept?, concept?, h]

lemma prime?_congr {encoder other : Encoder} (h : encoder.table = other.table) :
    encoder.prime? = other.prime? := by
  funext concept
  rw [prime?, prime?, h]

lemma concepts_congr {encoder other : Encoder} (h : encoder.table = other.table) :
    encoder.concepts = other.concepts := by
  rw [concepts, concepts, h]

/-! ## Asking for concepts -/

end Encoder

/-- The concepts after one more request: a concept that is not blank and not yet there is put at
the end. -/
def request (concepts : List String) (given : String) : List String :=
  if normalize given = "" ∨ normalize given ∈ concepts then concepts
  else concepts ++ [normalize given]

/-- The concepts after several requests. -/
def requestAll (concepts givens : List String) : List String := givens.foldl request concepts

/-- What is asked for in a computation that fails at the first blank concept. -/
def untilBlank (givens : List String) : List String :=
  givens.takeWhile fun given => normalize given ≠ ""

lemma requestAll_cons (concepts : List String) (given : String) (givens : List String) :
    requestAll concepts (given :: givens) = requestAll (request concepts given) givens := by
  rw [requestAll, List.foldl_cons, requestAll]

lemma requestAll_append (concepts givens more : List String) :
    requestAll concepts (givens ++ more) = requestAll (requestAll concepts givens) more :=
  List.foldl_append

lemma prefix_request (concepts : List String) (given : String) :
    concepts <+: request concepts given := by
  unfold request
  split_ifs
  · exact List.prefix_rfl
  · exact List.prefix_append _ _

lemma prefix_requestAll (concepts givens : List String) : concepts <+: requestAll concepts givens := by
  induction givens generalizing concepts with
  | nil => exact List.prefix_rfl
  | cons given givens ih =>
      rw [requestAll_cons]
      exact (prefix_request concepts given).trans (ih (request concepts given))

/-- What has been asked for is there. -/
lemma mem_requestAll {concepts givens : List String} {given : String} (hgiven : given ∈ givens)
    (hne : normalize given ≠ "") : normalize given ∈ requestAll concepts givens := by
  obtain ⟨before, after, rfl⟩ := List.append_of_mem hgiven
  rw [requestAll_append, requestAll_cons]
  refine (prefix_requestAll _ after).subset ?_
  unfold request
  split_ifs with h
  · exact h.resolve_left hne
  · simp

/-- Nothing else is there than what was there before and what has been asked for. -/
lemma mem_of_mem_requestAll {concepts givens : List String} {concept : String}
    (h : concept ∈ requestAll concepts givens) : concept ∈ concepts ∨ concept ∈ givens.map normalize := by
  induction givens generalizing concepts with
  | nil => exact .inl h
  | cons given givens ih =>
      rw [requestAll_cons] at h
      rcases ih h with hrequest | hgiven
      · unfold request at hrequest
        split_ifs at hrequest
        · exact .inl hrequest
        · rcases List.mem_append.mp hrequest with hrequest | hrequest
          · exact .inl hrequest
          · exact .inr (List.mem_cons.mpr (.inl (List.mem_singleton.mp hrequest)))
      · exact .inr (List.mem_cons_of_mem _ hgiven)

/-- Requests for known concepts change nothing. -/
lemma requestAll_of_known {concepts givens : List String}
    (h : ∀ given ∈ givens, normalize given ∈ concepts) : requestAll concepts givens = concepts := by
  induction givens with
  | nil => rfl
  | cons given givens ih =>
      have hknown : request concepts given = concepts := by
        rw [request, if_pos (Or.inr (h given List.mem_cons_self))]
      rw [requestAll_cons, hknown]
      exact ih fun g hg => h g (List.mem_cons_of_mem given hg)

/-- **What requests add**: the concepts that were not there yet, each once, in the order of the first request. -/
lemma requestAll_eq_append {givens : List String} (concepts : List String)
    (h : ∀ given ∈ givens, normalize given ≠ "") :
    requestAll concepts givens = concepts ++ ((givens.map normalize).filter (· ∉ concepts)).eraseDups := by
  induction givens generalizing concepts with
  | nil => simp [requestAll]
  | cons given givens ih =>
      rw [List.forall_mem_cons] at h
      rw [requestAll_cons, ih _ h.2, List.map_cons]
      by_cases hknown : normalize given ∈ concepts
      · simp [request, hknown]
      · simp [request, hknown, h.1, List.eraseDups_cons, List.filter_filter, Bool.and_comm, Bool.beq_eq_decide_eq]

/-- **Concepts stand in the order of their first request.** -/
lemma requestAll_eq_eraseDups {givens : List String} (h : ∀ given ∈ givens, normalize given ≠ "") :
    requestAll [] givens = (givens.map normalize).eraseDups := by
  simp [requestAll_eq_append [] h]

/-- Requests that succeed are followed by the next ones. -/
lemma untilBlank_append {givens : List String} (h : ∀ given ∈ givens, normalize given ≠ "")
    (more : List String) : untilBlank (givens ++ more) = givens ++ untilBlank more := by
  refine List.takeWhile_append_of_pos fun given hgiven => ?_
  simpa using h given hgiven

/-- A request that fails is the last one. -/
lemma untilBlank_append_of_blank {givens : List String} (h : ∃ given ∈ givens, normalize given = "")
    (more : List String) : untilBlank (givens ++ more) = untilBlank givens := by
  induction givens with
  | nil => simp at h
  | cons given givens ih =>
      by_cases hgiven : normalize given = ""
      · simp [untilBlank, hgiven]
      · have hlater : ∃ blank ∈ givens, normalize blank = "" := by
          obtain ⟨blank, hmem, hblank⟩ := h
          rcases List.mem_cons.mp hmem with rfl | hmem
          · exact absurd hblank hgiven
          · exact ⟨blank, hmem, hblank⟩
        simpa [untilBlank, hgiven] using ih hlater

lemma untilBlank_of_ne {givens : List String} (h : ∀ given ∈ givens, normalize given ≠ "") :
    untilBlank givens = givens := by simpa [untilBlank] using untilBlank_append h []

lemma ne_blank_of_mem_untilBlank {givens : List String} {given : String}
    (h : given ∈ untilBlank givens) : normalize given ≠ "" := by
  simpa using List.mem_takeWhile_imp h

namespace Encoder

/-- **Entering a concept.**  A new concept in its normal spelling gets the next prime. -/
lemma Sound.enter {encoder : Encoder} (h : encoder.Sound) {concept : String}
    (hnormal : normalize concept = concept) (hne : concept ≠ "") (hnew : concept ∉ encoder.concepts) :
    (encoder.enter concept).2.Sound ∧
      (encoder.enter concept).2.concepts = encoder.concepts ++ [concept] ∧
      (encoder.enter concept).2.prime? concept = some (encoder.enter concept).1 := by
  obtain ⟨hprime, hsource⟩ := h.source.nth encoder.table.length
  have hlength : encoder.concepts.length = encoder.table.length := by simp [concepts]
  have hconcepts : (encoder.enter concept).2.concepts = encoder.concepts ++ [concept] := by
    simp [Encoder.enter, concepts]
  have hsound : (encoder.enter concept).2.Sound := by
    refine ⟨hsource, ?_, ?_, ?_⟩
    · rw [hconcepts, tableOf_concat, ← h.table, hlength, ← hprime]
      rfl
    · rw [hconcepts, List.nodup_append]
      refine ⟨h.nodup, List.nodup_singleton _, fun a ha b hb => ?_⟩
      rw [List.mem_singleton.mp hb]
      rintro rfl
      exact hnew ha
    · intro c hc
      rw [hconcepts, List.mem_append, List.mem_singleton] at hc
      rcases hc with hc | rfl
      · exact h.normal c hc
      · exact ⟨hnormal, hne⟩
  refine ⟨hsound, hconcepts, hsound.prime?_eq_some_iff.mpr ?_⟩
  simp [Encoder.enter]

lemma run_get_bind {α : Type} (body : Encoder → Encoding α) (encoder : Encoder) :
    (get >>= body).run.run encoder = (body encoder).run.run encoder := rfl

lemma run_primeOf_of_blank {given : String} (hblank : normalize given = "") (encoder : Encoder) :
    (primeOf given).run.run encoder = (.error (.emptyConcept given), encoder) := by
  simp only [primeOf, if_pos hblank]
  rfl

lemma run_primeOf_of_some {given : String} {encoder : Encoder} {prime : ℕ}
    (hblank : normalize given ≠ "") (hfound : encoder.prime? (normalize given) = some prime) :
    (primeOf given).run.run encoder = (.ok prime, encoder) := by
  simp only [primeOf, if_neg hblank]
  rw [run_get_bind, hfound]
  rfl

lemma run_primeOf_of_none {given : String} {encoder : Encoder}
    (hblank : normalize given ≠ "") (hfound : encoder.prime? (normalize given) = none) :
    (primeOf given).run.run encoder =
      (.ok (encoder.enter (normalize given)).1, (encoder.enter (normalize given)).2) := by
  simp only [primeOf, if_neg hblank]
  rw [run_get_bind, hfound]
  rfl

end Encoder

end PrimeReasoner
