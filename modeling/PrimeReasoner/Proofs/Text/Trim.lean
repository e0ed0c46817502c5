import Mathlib.Data.List.DropRight
import Mathlib.Data.List.TakeWhile
import PrimeReasoner.Text.Split

/-!
# What trimming leaves

A trimmed text (`Trimmed`) neither begins nor ends with a blank.  `trim` always leaves one
(`trimmed_trim`), changes none (`Trimmed.trim_eq`), and leaves nothing exactly of a text that is
blank throughout (`trim_eq_nil_iff`).

The sentence readers take a text apart at a phrase and trim the pieces.  What they rely on stands
at the end: both sides of a cut are trimmed and not empty (`cutOnce_sides`), and so is every word
(`mem_words`).
-/

namespace PrimeReasoner.Text

/-- The text neither begins nor ends with a blank. -/
def Trimmed (s : List Char) : Prop :=
  (∀ c ∈ s.head?, isBlank c = false) ∧ ∀ c ∈ s.getLast?, isBlank c = false

lemma trimEnd_eq_rdropWhile (s : List Char) : trimEnd s = s.rdropWhile isBlank := rfl

/-- Trimming changes no trimmed text. -/
lemma Trimmed.trim_eq {s : List Char} (h : Trimmed s) : trim s = s := by
  cases s with
  | nil => rfl
  | cons c rest =>
      have hhead : isBlank c = false := h.1 c rfl
      have hstart : trimStart (c :: rest) = c :: rest := by simp [trimStart, hhead]
      rw [trim, hstart, trimEnd_eq_rdropWhile, List.rdropWhile_eq_self_iff]
      intro hne
      simpa using h.2 _ (List.getLast?_eq_getLast_of_ne_nil hne)

/-- Trimming leaves a trimmed text. -/
lemma trimmed_trim (s : List Char) : Trimmed (trim s) := by
  constructor
  · intro c hc
    -- what is left begins as the text without its leading blanks does
    have hprefix : trim s <+: trimStart s := List.rdropWhile_prefix isBlank _
    have hhead : (trimStart s).head? = some c := by
      obtain ⟨rest, hrest⟩ := hprefix
      rw [← hrest, List.head?_append, Option.mem_def.mp hc, Option.some_or]
    have := List.head?_dropWhile_not isBlank s
    rw [show s.dropWhile isBlank = trimStart s from rfl, hhead] at this
    simpa using this
  · intro c hc
    have hne : (trimStart s).rdropWhile isBlank ≠ [] := by
      rintro hnil
      rw [trim, trimEnd_eq_rdropWhile, hnil] at hc
      simp at hc
    have hlast := List.rdropWhile_last_not isBlank (trimStart s) hne
    rw [trim, trimEnd_eq_rdropWhile, List.getLast?_eq_getLast_of_ne_nil hne] at hc
    obtain rfl := Option.some.inj hc
    simpa using hlast

@[simp] lemma trim_trim (s : List Char) : trim (trim s) = trim s := (trimmed_trim s).trim_eq

/-- Nothing is left exactly of a text that is blank throughout. -/
lemma trim_eq_nil_iff {s : List Char} : trim s = [] ↔ ∀ c ∈ s, isBlank c = true := by
  rw [trim, trimEnd_eq_rdropWhile, List.rdropWhile_eq_nil_iff]
  constructor
  · intro h
    have hall : trimStart s = [] := by
      by_contra hne
      have hhead : isBlank ((trimStart s).head hne) = false := List.head_dropWhile_not isBlank hne
      rw [h _ (List.head_mem hne)] at hhead
      simp at hhead
    exact List.dropWhile_eq_nil_iff.mp hall
  · intro h c hc
    exact h c ((List.dropWhile_suffix isBlank).subset hc)

/-- A text with a character that is not blank is not trimmed away. -/
lemma trim_ne_nil_of_mem {s : List Char} {c : Char} (hc : c ∈ s) (hblank : isBlank c = false) :
    trim s ≠ [] := by
  intro hnil
  rw [trim_eq_nil_iff.mp hnil c hc] at hblank
  simp at hblank

/-- The last character of a trimmed text stands in every tail of it that is not empty. -/
lemma Trimmed.trim_drop_ne_nil {s : List Char} (h : Trimmed s) {n : ℕ} (hn : n < s.length) :
    trim (s.drop n) ≠ [] := by
  have hne : s ≠ [] := by
    rintro rfl
    simp at hn
  have hdrop : s.drop n ≠ [] := by simpa using hn
  have hlast : (s.drop n).getLast hdrop = s.getLast hne := List.getLast_drop hdrop
  refine trim_ne_nil_of_mem (List.getLast_mem hdrop) ?_
  rw [hlast]
  exact h.2 _ (List.getLast?_eq_getLast_of_ne_nil hne)

/-! ## Pieces of a text -/

/-- The two sides of a cut are trimmed and not empty. -/
lemma cutOnce_sides {phrase s before after : List Char} (h : cutOnce phrase s = some (before, after)) :
    (Trimmed before ∧ before ≠ []) ∧ Trimmed after ∧ after ≠ [] := by
  unfold cutOnce at h
  split at h
  · simp at h
  · next left right _ =>
    split_ifs at h with hbad
    simp only [Bool.or_eq_true, List.isEmpty_iff, not_or] at hbad
    obtain ⟨rfl, rfl⟩ := Prod.mk.inj (Option.some.inj h)
    exact ⟨⟨trimmed_trim left, hbad.1.2⟩, trimmed_trim right, hbad.2⟩

/-- A character of a piece is not one that the text was cut at. -/
lemma mem_splitWhere {p : Char → Bool} {s piece : List Char} (h : piece ∈ splitWhere p s) :
    ∀ c ∈ piece, p c = false := by
  induction s generalizing piece with
  | nil =>
      rw [splitWhere_nil, List.mem_singleton] at h
      simp [h]
  | cons c s ih =>
      rw [splitWhere_cons] at h
      split_ifs at h with hc
      · rcases List.mem_cons.mp h with rfl | h
        · simp
        · exact ih h
      · cases hpieces : splitWhere p s with
        | nil =>
            rw [hpieces, consFirst, List.mem_singleton] at h
            simpa [h] using hc
        | cons first pieces =>
            rw [hpieces, consFirst] at h
            rcases List.mem_cons.mp h with rfl | h
            · intro d hd
              rcases List.mem_cons.mp hd with rfl | hd
              · simpa using hc
              · exact ih (by rw [hpieces]; exact List.mem_cons_self) d hd
            · exact ih (by rw [hpieces]; exact List.mem_cons_of_mem _ h)

/-- A word is not empty and holds no blank. -/
lemma mem_words {s word : List Char} (h : word ∈ words s) :
    word ≠ [] ∧ ∀ c ∈ word, isBlank c = false := by
  rw [words, List.mem_filter] at h
  exact ⟨by simpa using h.2, mem_splitWhere h.1⟩

/-- There is always at least one piece. -/
lemma splitAll_ne_nil (phrase s : List Char) : splitAll phrase s ≠ [] := by
  unfold splitAll
  split_ifs
  · simp
  · split <;> simp

end PrimeReasoner.Text
