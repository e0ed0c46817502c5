import PrimeReasoner.Proofs.Encoder.Calls
import PrimeReasoner.Proofs.Search.Refinement

/-!
# Stores in every state

A store is filled with facts and rules while its encoder is used for other things: concepts are asked
for, numbers are read, questions are answered over this knowledge or another.  In every state that this
leads to, the table is sound and the knowledge fits it (`Store.Sound`), because a fact or rule is added
with the numbers that the table has for it and the table only grows (`IsReachable.sound`).
-/

namespace PrimeReasoner

namespace Knowledge.Fits

variable {knowledge : Knowledge} {encoder : Encoder}

lemma withFact (h : knowledge.Fits encoder) {fact : Fact} (hfact : encoder.Knows fact.concepts)
    (n : ℕ) : (knowledge.withFact fact n).Fits encoder := by
  refine ⟨fun other hother => ?_, h.rules⟩
  rcases List.mem_append.mp hother with hother | hother
  · exact h.facts other hother
  · exact List.mem_singleton.mp hother ▸ hfact

lemma withRule (h : knowledge.Fits encoder) {rule : Rule} {encoded : EncodedRule}
    (hrule : encoder.Knows rule.concepts) (hcode : encoder.ruleCode? rule = some encoded) :
    (knowledge.withRule encoded).Fits encoder := by
  refine ⟨h.facts, fun other hother => ?_⟩
  rcases List.mem_append.mp hother with hother | hother
  · exact h.rules other hother
  · exact List.mem_singleton.mp hother ▸ ⟨rule, hrule, hcode⟩

end Knowledge.Fits

namespace Store

/-- One use of a store or of its encoder. -/
inductive Operation where
  | addFact (fact : Fact)
  | addRule (proposal : Proposal)
  | call (call : Encoder.Call)

/-- The store after an operation, whether or not it fails. -/
def perform (store : Store) : Operation → Store
  | .addFact fact => (store.addFact fact).2
  | .addRule proposal => (store.addRule proposal).2
  | .call call => { store with encoder := call.run store.encoder }

/-- The store after several operations, in order. -/
def performAll (store : Store) (operations : List Operation) : Store :=
  operations.foldl perform store

/-- An empty store with a new table, on a source of primes that has been used by others before. -/
def fresh (sieveLimit : Int) (before : List Prime.Request) : Store :=
  { encoder := .fresh sieveLimit before }

/-- **The table is sound, and the knowledge fits it.** -/
structure Sound (store : Store) : Prop where
  encoder : store.encoder.Sound
  fits : store.knowledge.Fits store.encoder

lemma sound_fresh (sieveLimit : Int) (before : List Prime.Request) : (fresh sieveLimit before).Sound :=
  ⟨(Encoder.sound_fresh sieveLimit before).1, Knowledge.Fits.empty _⟩

/-- The later store has the same knowledge and more, on a larger table. -/
structure Grows (store later : Store) : Prop where
  encoder : store.encoder.Grows later.encoder
  facts : store.knowledge.facts <+: later.knowledge.facts
  encodings : store.knowledge.encodings <+: later.knowledge.encodings
  rules : store.knowledge.rules <+: later.knowledge.rules

lemma Grows.refl (store : Store) : store.Grows store :=
  ⟨Encoder.Grows.refl _, List.prefix_rfl, List.prefix_rfl, List.prefix_rfl⟩

lemma Grows.trans {first second third : Store} (h : first.Grows second) (h' : second.Grows third) :
    first.Grows third :=
  ⟨h.encoder.trans h'.encoder, h.facts.trans h'.facts, h.encodings.trans h'.encodings,
    h.rules.trans h'.rules⟩

/-- A larger table alone. -/
lemma Sound.withEncoder {store : Store} (h : store.Sound) {encoder : Encoder}
    (hencoder : encoder.Sound) (hgrows : store.encoder.Grows encoder) :
    ({ store with encoder } : Store).Sound ∧ store.Grows { store with encoder } :=
  ⟨⟨hencoder, h.fits.grows h.encoder hencoder hgrows⟩,
    hgrows, List.prefix_rfl, List.prefix_rfl, List.prefix_rfl⟩

lemma Sound.addFact {store : Store} (h : store.Sound) (fact : Fact) :
    (store.addFact fact).2.Sound ∧ store.Grows (store.addFact fact).2 := by
  have hasks := Encoder.asks_encodeFact fact
  obtain ⟨hsound, hgrows⟩ := hasks.grows h.encoder
  unfold Store.addFact
  rcases hrun : (Encoder.encodeFact fact).run.run store.encoder with ⟨error | n, later⟩
  all_goals rw [hrun] at hsound hgrows
  · exact h.withEncoder hsound hgrows
  · obtain ⟨-, -, hknows, -⟩ := hasks.knows h.encoder hrun
    have hfits := h.fits.grows h.encoder hsound hgrows
    exact ⟨⟨hsound, hfits.withFact hknows n⟩, hgrows, List.prefix_append _ _, List.prefix_append _ _,
      List.prefix_rfl⟩

lemma Sound.addRule {store : Store} (h : store.Sound) (proposal : Proposal) :
    (store.addRule proposal).2.Sound ∧ store.Grows (store.addRule proposal).2 := by
  cases proposal with
  | value value => exact ⟨h, Grows.refl store⟩
  | rule rule =>
      have hasks := Encoder.asks_encodeRule rule
      obtain ⟨hsound, hgrows⟩ := hasks.grows h.encoder
      unfold Store.addRule Encoder.encodeProposal
      dsimp only
      rcases hrun : (Encoder.encodeRule rule).run.run store.encoder with ⟨error | encoded, later⟩
      all_goals rw [hrun] at hsound hgrows
      · exact h.withEncoder hsound hgrows
      · obtain ⟨-, -, hknows, hcode⟩ := hasks.knows h.encoder hrun
        have hfits := h.fits.grows h.encoder hsound hgrows
        exact ⟨⟨hsound, hfits.withRule hknows (hcode later hsound (Encoder.Grows.refl later))⟩, hgrows,
          List.prefix_rfl, List.prefix_rfl, List.prefix_append _ _⟩

/-- **One operation** keeps the store sound, and nothing is lost. -/
lemma Sound.perform {store : Store} (h : store.Sound) (operation : Operation) :
    (store.perform operation).Sound ∧ store.Grows (store.perform operation) := by
  cases operation with
  | addFact fact => exact h.addFact fact
  | addRule proposal => exact h.addRule proposal
  | call call =>
      obtain ⟨hsound, requests, -, hconcepts⟩ := h.encoder.call call
      exact h.withEncoder hsound
        (h.encoder.grows hsound (hconcepts ▸ prefix_requestAll _ _))

/-- **A run of operations**, by induction from the first one. -/
lemma Sound.performAll {store : Store} (h : store.Sound) (operations : List Operation) :
    (store.performAll operations).Sound ∧ store.Grows (store.performAll operations) := by
  induction operations generalizing store with
  | nil => exact ⟨h, Grows.refl store⟩
  | cons operation operations ih =>
      obtain ⟨hsound, hgrows⟩ := h.perform operation
      obtain ⟨hlast, hgrows'⟩ := ih hsound
      exact ⟨hlast, hgrows.trans hgrows'⟩

/-- The store comes from an empty one by some operations. -/
def IsReachable (store : Store) : Prop :=
  ∃ sieveLimit before operations, store = (fresh sieveLimit before).performAll operations

theorem IsReachable.sound {store : Store} (h : store.IsReachable) : store.Sound := by
  obtain ⟨sieveLimit, before, operations, rfl⟩ := h
  exact ((sound_fresh sieveLimit before).performAll operations).1

end Store

end PrimeReasoner
