import Mathlib.Data.List.Perm.Basic
import PrimeReasoner.Fact
import PrimeReasoner.Proofs.Text.Lowercase
import PrimeReasoner.Proofs.Text.Trim

/-!
# The normal spelling of a concept

A concept is brought into its normal spelling again at every layer: when a sentence is read, when a
fact is built, when its prime is asked for, when a number is read back.  That does no harm, because
the normal spelling of a normal spelling is itself (`normalize_normalize`).

A fact is complete (`Fact.IsComplete`) if none of its concepts is blank; these are the facts that
can be encoded.  It is normal (`Fact.IsNormal`) if its concepts are in their normal spelling, and it
permutes another one (`Fact.Permutes`) if both have the same concepts, in whatever order.  Its phrase
tells what the fact is if the concepts are single words (`Fact.eq_of_text_eq`).
-/

namespace PrimeReasoner

open Text

lemma toList_normalize (concept : String) :
    (normalize concept).toList = lower (trim concept.toList) := String.toList_ofList

/-- What lower-casing makes of a trimmed text is trimmed. -/
lemma trimmed_lower {s : List Char} (h : Trimmed s) : Trimmed (lower s) := by
  constructor
  · intro d hd
    cases s with
    | nil => simp at hd
    | cons c rest =>
        rw [isBlank_head_lowerOnto rfl (Option.mem_def.mp hd)]
        exact h.1 c rfl
  · intro d hd
    cases hlast : s.getLast? with
    | none =>
        rw [List.getLast?_eq_none_iff] at hlast
        simp [hlast] at hd
    | some c =>
        rw [isBlank_last_lowerOnto hlast (Option.mem_def.mp hd)]
        exact h.2 c hlast

/-- **The normal spelling is stable.** -/
@[simp] lemma normalize_normalize (concept : String) :
    normalize (normalize concept) = normalize concept := by
  have htrim : trim (lower (trim concept.toList)) = lower (trim concept.toList) :=
    (trimmed_lower (trimmed_trim _)).trim_eq
  rw [normalize, toList_normalize, htrim, lower_lower, normalize]

/-- A concept is empty exactly if it is blank throughout. -/
lemma normalize_eq_empty_iff {concept : String} :
    normalize concept = "" ↔ ∀ c ∈ concept.toList, isBlank c = true := by
  rw [← String.toList_inj, toList_normalize, String.toList_empty, lower_eq_nil_iff,
    trim_eq_nil_iff]

lemma normalize_ofList_ne_empty {s : List Char} (h : trim s ≠ []) :
    normalize (String.ofList s) ≠ "" := by
  rw [Ne, normalize_eq_empty_iff, String.toList_ofList, ← trim_eq_nil_iff]
  exact h

namespace Fact

/-- The three concepts of a fact, in the order in which they are encoded. -/
def concepts (fact : Fact) : List String := [fact.subject, fact.predicate, fact.object]

/-- No concept of the fact is blank. -/
def IsComplete (fact : Fact) : Prop := ∀ concept ∈ fact.concepts, normalize concept ≠ ""

instance (fact : Fact) : Decidable fact.IsComplete :=
  inferInstanceAs (Decidable (∀ concept ∈ fact.concepts, normalize concept ≠ ""))

lemma isComplete_iff {fact : Fact} :
    fact.IsComplete ↔
      normalize fact.subject ≠ "" ∧ normalize fact.predicate ≠ "" ∧ normalize fact.object ≠ "" := by
  simp [IsComplete, concepts]

/-- A fact is complete if it was built from concepts that are not blank. -/
lemma isComplete_of {subject predicate object : String} :
    (of subject predicate object).IsComplete ↔
      normalize subject ≠ "" ∧ normalize predicate ≠ "" ∧ normalize object ≠ "" := by
  simp [isComplete_iff, of]

/-- The concepts of the fact are in their normal spelling, like those of every fact that was built. -/
def IsNormal (fact : Fact) : Prop := ∀ concept ∈ fact.concepts, normalize concept = concept

instance (fact : Fact) : Decidable fact.IsNormal :=
  inferInstanceAs (Decidable (∀ concept ∈ fact.concepts, normalize concept = concept))

@[simp] lemma isNormal_of (subject predicate object : String) :
    (of subject predicate object).IsNormal := by
  simp [IsNormal, concepts, of]

/-- The facts have the same concepts, up to their order and spelling. -/
def Permutes (fact other : Fact) : Prop :=
  (fact.concepts.map normalize).Perm (other.concepts.map normalize)

instance (fact other : Fact) : Decidable (fact.Permutes other) :=
  inferInstanceAs (Decidable (List.Perm _ _))

/-- Two texts that are cut at their first blank. -/
lemma eq_of_append_blank {word word' rest rest' : List Char} (hword : ' ' ∉ word) (hword' : ' ' ∉ word')
    (h : word ++ ' ' :: rest = word' ++ ' ' :: rest') : word = word' ∧ rest = rest' := by
  rcases List.append_eq_append_iff.mp h with ⟨more, rfl, hmore⟩ | ⟨more, rfl, hmore⟩
  all_goals cases more <;> simp_all

lemma toList_text (fact : Fact) : fact.text.toList =
    fact.subject.toList ++ ' ' :: (fact.predicate.toList ++ ' ' :: fact.object.toList) := by
  simp [text, toString]

/-- **Facts of single words** can be told by their phrases. -/
lemma eq_of_text_eq {first second : Fact}
    (hfirst : ∀ concept ∈ first.concepts, ' ' ∉ concept.toList)
    (hsecond : ∀ concept ∈ second.concepts, ' ' ∉ concept.toList) (h : first.text = second.text) :
    first = second := by
  rw [← String.toList_inj, toList_text, toList_text] at h
  simp only [concepts, List.forall_mem_cons] at hfirst hsecond
  obtain ⟨hsubject, h⟩ := eq_of_append_blank hfirst.1 hsecond.1 h
  obtain ⟨hpredicate, hobject⟩ := eq_of_append_blank hfirst.2.1 hsecond.2.1 h
  rw [String.toList_inj] at hsubject hpredicate hobject
  cases first
  cases second
  simp_all

end Fact

end PrimeReasoner
