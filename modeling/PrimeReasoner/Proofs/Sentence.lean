import PrimeReasoner.Proofs.Encoder.Coding
import PrimeReasoner.Sentence

/-!
# What is read from a sentence can be encoded

A reader takes a text apart, trims the pieces, drops an article or a verb, and builds a fact or a rule,
whose concepts are brought into their normal spelling once more.  No piece gets lost on the way: whatever
the text, the concepts of what was read are not blank (`fact?_isComplete`, `rule?_isComplete`,
`question?_isComplete`).

**Articles.**  "the " with nothing behind it would leave an empty text.  That cannot happen, because a piece
has no blank at its end (`withoutArticle_ne_nil`).

**Conditions.**  An implication is read from at least one condition, so it always makes a rule
(`implication_ok`).
-/

namespace PrimeReasoner.Sentence

open Text

lemma relate_isComplete {predicate : String} {subject object : List Char}
    (hpredicate : normalize predicate ≠ "") (hsubject : trim subject ≠ [])
    (hobject : trim object ≠ []) : (relate predicate subject object).IsComplete :=
  Fact.isComplete_of.mpr
    ⟨normalize_ofList_ne_empty hsubject, hpredicate, normalize_ofList_ne_empty hobject⟩

/-- The sides of a cut are not blank. -/
lemma trim_cutOnce_ne_nil {phrase s before after : List Char}
    (h : cutOnce phrase s = some (before, after)) : trim before ≠ [] ∧ trim after ≠ [] := by
  obtain ⟨⟨hbefore, hne⟩, hafter, hne'⟩ := cutOnce_sides h
  exact ⟨hbefore.trim_eq.symm ▸ hne, hafter.trim_eq.symm ▸ hne'⟩

/-- A fact read at a cut is complete. -/
lemma relate_cutOnce_isComplete {predicate : String} {phrase s : List Char} {fact : Fact}
    (hpredicate : normalize predicate ≠ "")
    (h : ((cutOnce phrase s).map fun (subject, object) => relate predicate subject object) =
      some fact) : fact.IsComplete := by
  obtain ⟨⟨subject, object⟩, hcut, rfl⟩ := Option.map_eq_some_iff.mp h
  obtain ⟨hsubject, hobject⟩ := trim_cutOnce_ne_nil hcut
  exact relate_isComplete hpredicate hsubject hobject

/-! ## Articles and verbs -/

lemma trimmed_withoutArticle {s : List Char} (h : Trimmed s) : Trimmed (withoutArticle s) := by
  unfold withoutArticle
  split
  · exact trimmed_trim _
  · exact h

lemma trimmed_withoutVerb {s : List Char} (h : Trimmed s) : Trimmed (withoutVerb s) := by
  unfold withoutVerb
  split_ifs
  · exact trimmed_trim _
  · exact h

/-- Behind an article there is something left. -/
lemma withoutArticle_ne_nil {s : List Char} (h : Trimmed s) (hne : s ≠ []) : withoutArticle s ≠ [] := by
  unfold withoutArticle after?
  by_cases hthe : ("the ".toList).isPrefixOf s = true
  · rw [if_pos hthe]
    obtain ⟨rest, rfl⟩ := List.isPrefixOf_iff_prefix.mp hthe
    refine h.trim_drop_ne_nil ?_
    -- the article ends with a blank, so it is not the whole text
    cases rest with
    | nil =>
        have hblank := h.2 ' ' (by decide)
        exact absurd hblank (by decide)
    | cons c rest => simp
  · rw [if_neg hthe]
    exact hne

lemma partFact?_isComplete {s : List Char} {fact : Fact} (h : partFact? s = some fact) :
    fact.IsComplete := by
  unfold partFact? at h
  split at h
  · simp at h
  · next part whole hcut =>
    obtain ⟨⟨hpart, -⟩, hwhole, -⟩ := cutOnce_sides hcut
    have hpart' := trimmed_withoutArticle (trimmed_withoutVerb hpart)
    have hwhole' := trimmed_withoutArticle hwhole
    dsimp only at h
    split_ifs at h with hempty
    simp only [Bool.or_eq_true, List.isEmpty_iff, not_or] at hempty
    obtain rfl := Option.some.inj h
    refine relate_isComplete (by decide +kernel) ?_ ?_
    · rw [hpart'.trim_eq]
      exact hempty.1
    · rw [hwhole'.trim_eq]
      exact hempty.2

/-! ## Statements and rules -/

lemma predicate_ne_blank : ∀ connective ∈ connectives, normalize connective.predicate ≠ "" := by
  decide +kernel

/-- **A statement is read as a complete fact.** -/
theorem fact?_isComplete {s : List Char} {fact : Fact} (h : fact? s = some fact) :
    fact.IsComplete := by
  unfold fact? at h
  dsimp only at h
  split at h
  · next found hpart =>
    obtain rfl := Option.some.inj h
    exact partFact?_isComplete hpart
  · obtain ⟨connective, hconnective, hread⟩ := List.exists_of_findSome?_eq_some h
    exact relate_cutOnce_isComplete (predicate_ne_blank connective hconnective) hread

lemma all_isComplete {category property : List Char} (quantifier : Quantifier)
    (hcategory : trim category ≠ []) (hproperty : trim property ≠ []) :
    (Rule.all quantifier (String.ofList category) (String.ofList property)).IsComplete := by
  have hvariable : normalize Encoder.variableConcept ≠ "" := by decide +kernel
  have hbound : normalize Rule.boundVariable ≠ "" := by decide +kernel
  have his : normalize "is" ≠ "" := by decide +kernel
  have hpredicate : normalize quantifier.predicate ≠ "" := by cases quantifier <;> decide +kernel
  have hcategory' := normalize_ofList_ne_empty hcategory
  have hproperty' := normalize_ofList_ne_empty hproperty
  intro concept hconcept
  rcases List.mem_append.mp hconcept with hconcept | hconcept
  · rcases List.mem_append.mp hconcept with hconcept | hconcept
    · simp only [List.mem_cons, List.not_mem_nil, or_false] at hconcept
      rcases hconcept with rfl | rfl | rfl | rfl
      · exact hvariable
      · rw [normalize_normalize]
        exact hcategory'
      · rw [normalize_normalize]
        exact hproperty'
      · exact hpredicate
    · refine Fact.isComplete_of.mpr ⟨hbound, his, ?_⟩ concept hconcept
      rw [normalize_normalize]
      exact hcategory'
  · refine Fact.isComplete_of.mpr ⟨hbound, hpredicate, ?_⟩ concept hconcept
    rw [normalize_normalize]
    exact hproperty'

lemma quantified?_isComplete {text : List Char} {rule : Rule} (h : quantified? text = some rule) :
    rule.IsComplete := by
  unfold quantified? at h
  split at h
  · simp at h
  · split at h
    · next hcut =>
      obtain ⟨hcategory, hproperty⟩ := trim_cutOnce_ne_nil hcut
      obtain rfl := Option.some.inj h
      exact all_isComplete .universal hcategory hproperty
    · obtain ⟨⟨category, capability⟩, hcut, rfl⟩ := Option.map_eq_some_iff.mp h
      obtain ⟨hcategory, hcapability⟩ := trim_cutOnce_ne_nil hcut
      exact all_isComplete .capability hcategory hcapability

/-- The conditions of an implication are never missing. -/
lemma implication_ok {text : List Char} {conditions : List Fact}
    (h : (splitAll " and ".toList text).mapM fact? = some conditions) (conclusion : Fact) :
    ∃ rule, Rule.implication conditions conclusion = .ok rule := by
  cases hpieces : splitAll " and ".toList text with
  | nil => exact absurd hpieces (splitAll_ne_nil _ _)
  | cons piece pieces =>
      rw [hpieces] at h
      simp only [List.mapM_cons, Option.bind_eq_bind, Option.bind_eq_some_iff, Option.pure_def,
        Option.some.injEq] at h
      obtain ⟨condition, -, further, -, rfl⟩ := h
      exact ⟨_, rfl⟩

lemma isComplete_of_mem_mapM {pieces : List (List Char)} {facts : List Fact}
    (h : pieces.mapM fact? = some facts) : ∀ fact ∈ facts, fact.IsComplete := by
  induction pieces generalizing facts with
  | nil =>
      obtain rfl : [] = facts := by simpa using h
      simp
  | cons piece pieces ih =>
      simp only [List.mapM_cons, Option.bind_eq_bind, Option.bind_eq_some_iff, Option.pure_def,
        Option.some.injEq] at h
      obtain ⟨fact, hfact, rest, hrest, rfl⟩ := h
      rw [List.forall_mem_cons]
      exact ⟨fact?_isComplete hfact, ih hrest⟩

lemma implication?_isComplete {text : List Char} {rule : Rule} (h : implication? text = some rule) :
    rule.IsComplete := by
  unfold implication? at h
  split at h
  · simp at h
  · split at h
    · simp at h
    · split at h
      · next conditions conclusion hconditions hconclusion =>
        obtain ⟨found, hfound⟩ := implication_ok hconditions conclusion
        have hcomplete := isComplete_of_mem_mapM hconditions
        rw [hfound] at h
        obtain rfl := Option.some.inj h
        cases conditions with
        | nil => simp [Rule.implication] at hfound
        | cons condition further =>
            obtain rfl := Except.ok.inj hfound
            intro concept hconcept
            rcases List.mem_append.mp hconcept with hconcept | hconcept
            · obtain ⟨fact, hfact, hmem⟩ := List.mem_flatMap.mp hconcept
              exact hcomplete fact hfact concept hmem
            · exact fact?_isComplete hconclusion concept hconcept
      · simp at h

/-- **A rule is read as a complete one.** -/
theorem rule?_isComplete {s : List Char} {rule : Rule} (h : rule? s = some rule) :
    rule.IsComplete := by
  unfold rule? at h
  dsimp only at h
  split at h
  · next found hfound =>
    obtain rfl := Option.some.inj h
    exact quantified?_isComplete hfound
  · exact implication?_isComplete h

/-! ## Questions -/

lemma subjectFirst?_isComplete {predicate : String} (hpredicate : normalize predicate ≠ "")
    {s : List Char} {fact : Fact} (h : subjectFirst? predicate s = some fact) : fact.IsComplete := by
  unfold subjectFirst? at h
  split at h
  · next subject first more hwords =>
    obtain rfl := Option.some.inj h
    have hword : ∀ word ∈ words s, trim word ≠ [] := by
      intro word hmem
      obtain ⟨hne, hblank⟩ := mem_words hmem
      exact trim_ne_nil_of_mem (List.head_mem hne) (hblank _ (List.head_mem hne))
    obtain ⟨hne, hblank⟩ := mem_words (hwords ▸ List.mem_cons_of_mem subject List.mem_cons_self)
    have hmem : first.head hne ∈ [' '].intercalate (first :: more) := by
      cases more with
      | nil => simp [List.intercalate]
      | cons second more => simp [List.intercalate]
    exact relate_isComplete hpredicate (hword subject (hwords ▸ List.mem_cons_self))
      (trim_ne_nil_of_mem hmem (hblank _ (List.head_mem hne)))
  · simp at h

lemma afterIs?_isComplete {s : List Char} {fact : Fact} (h : afterIs? s = some fact) :
    fact.IsComplete := by
  have his : normalize "is" ≠ "" := by decide +kernel
  unfold afterIs? at h
  split_ifs at h
  · obtain ⟨⟨part, whole⟩, hcut, rfl⟩ := Option.map_eq_some_iff.mp h
    obtain ⟨⟨hpart, hne⟩, hwhole, hne'⟩ := cutOnce_sides hcut
    refine relate_isComplete (by decide +kernel) ?_ ?_
    · rw [(trimmed_withoutArticle hpart).trim_eq]
      exact withoutArticle_ne_nil hpart hne
    · rw [(trimmed_withoutArticle hwhole).trim_eq]
      exact withoutArticle_ne_nil hwhole hne'
  · exact relate_cutOnce_isComplete his h
  · exact relate_cutOnce_isComplete his h
  · exact subjectFirst?_isComplete his h

lemma afterDoes?_isComplete {s : List Char} {fact : Fact} (h : afterDoes? s = some fact) :
    fact.IsComplete := by
  unfold afterDoes? at h
  split at h
  · next hcut =>
    obtain ⟨hsubject, hobject⟩ := trim_cutOnce_ne_nil hcut
    obtain rfl := Option.some.inj h
    exact relate_isComplete (by decide +kernel) hsubject hobject
  · exact relate_cutOnce_isComplete (by decide +kernel) h

/-- **A question is read as a complete fact.** -/
theorem question?_isComplete {s : List Char} {fact : Fact} (h : question? s = some fact) :
    fact.IsComplete := by
  obtain ⟨⟨opening, read⟩, hopening, hread⟩ := List.exists_of_findSome?_eq_some h
  dsimp only at hread
  obtain ⟨rest, -, hfact⟩ := Option.bind_eq_some_iff.mp hread
  simp only [openings, List.mem_cons, List.not_mem_nil, or_false, Prod.mk.injEq] at hopening
  rcases hopening with ⟨rfl, rfl⟩ | ⟨rfl, rfl⟩ | ⟨rfl, rfl⟩ | ⟨rfl, rfl⟩
  · exact afterIs?_isComplete hfact
  · exact subjectFirst?_isComplete (by decide +kernel) hfact
  · exact afterDoes?_isComplete hfact
  · exact subjectFirst?_isComplete (by decide +kernel) hfact

end PrimeReasoner.Sentence
