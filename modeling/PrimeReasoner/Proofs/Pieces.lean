import PrimeReasoner.Proofs.Text.Words
import PrimeReasoner.Sentence

/-!
# The pieces of a text

A text of several sentences is cut at each mark, and the blanks behind a mark go with it (`Cut`).

**One way only.**  Since no mark is blank, there is exactly one way to cut a text so, and it is the one that is taken
(`cut_iff`).

**Blank pieces** say nothing.  A text has no other pieces exactly if it consists of blanks and marks
(`statements_eq_nil_iff`).
-/

namespace PrimeReasoner.Sentence

open Text

/-- **How a text is cut.**  A piece ends where the text ends, or at a mark.  The blanks that follow the mark, all of
them, go with it. -/
inductive Cut : List Char → List (List Char) → Prop
  | last {piece : List Char} (hpiece : ∀ c ∈ piece, isSeparator c = false) : Cut piece [piece]
  | mark {piece blanks rest : List Char} {c : Char} {pieces : List (List Char)}
      (hpiece : ∀ c ∈ piece, isSeparator c = false) (hmark : isSeparator c = true)
      (hblanks : ∀ c ∈ blanks, isBlank c = true) (hrest : ∀ c ∈ rest.head?, isBlank c = false)
      (hcut : Cut rest pieces) : Cut (piece ++ c :: (blanks ++ rest)) (piece :: pieces)

variable {s piece rest : List Char} {pieces : List (List Char)} {c : Char}

/-! ## The cut that is taken -/

lemma isSeparator_eq_false_of_isBlank (h : isBlank c = true) : isSeparator c = false := by
  rw [Bool.eq_false_iff]
  intro hmark
  simp only [isSeparator, List.contains_iff_mem, List.mem_cons, List.not_mem_nil, or_false] at hmark
  rcases hmark with rfl | rfl | rfl <;> simp +decide at h

/-- Leading blanks stand in the first piece. -/
lemma splitWhere_trimStart (s : List Char) :
    splitWhere isSeparator (trimStart s) = (splitWhere isSeparator s).modifyHead trimStart := by
  induction s with
  | nil => rfl
  | cons c s ih =>
      have hne : splitWhere isSeparator s ≠ [] := by
        rw [splitWhere_eq_splitOnP]
        exact List.splitOnP_ne_nil _ _
      obtain ⟨first, pieces, hsplit⟩ := List.exists_cons_of_ne_nil hne
      by_cases hblank : isBlank c = true
      · have hdrop : ∀ t, trimStart (c :: t) = trimStart t := fun t => List.dropWhile_cons_of_pos hblank
        rw [hdrop, ih, splitWhere_cons, isSeparator_eq_false_of_isBlank hblank, hsplit]
        simp [consFirst, hdrop]
      · have hkeep : ∀ t, trimStart (c :: t) = c :: t := fun t => List.dropWhile_cons_of_neg hblank
        rw [hkeep, splitWhere_cons, hsplit]
        split_ifs
        · rfl
        · simp [consFirst, hkeep]

lemma sentences_of_no_mark (h : ∀ c ∈ s, isSeparator c = false) : sentences s = [s] := by
  rw [sentences, splitWhere_eq_splitOnP, List.splitOnP_eq_singleton h]
  rfl

/-- **The first piece** ends at the first mark, and the others are those of the text after it. -/
lemma sentences_append_mark (hpiece : ∀ c ∈ piece, isSeparator c = false) (hmark : isSeparator c = true) :
    sentences (piece ++ c :: rest) = piece :: sentences (trimStart rest) := by
  have hrest : sentences (trimStart rest) = (splitWhere isSeparator rest).map trimStart := by
    rw [sentences, splitWhere_trimStart]
    cases splitWhere isSeparator rest with
    | nil => rfl
    | cons first pieces => rfl
  rw [hrest, sentences, splitWhere_eq_splitOnP, splitWhere_eq_splitOnP,
    List.splitOnP_append_cons_of_forall_mem hpiece c hmark]

lemma Cut.eq_sentences (h : Cut s pieces) : pieces = sentences s := by
  induction h with
  | last hpiece => rw [sentences_of_no_mark hpiece]
  | @mark piece blanks rest c pieces hpiece hmark hblanks hrest _ ih =>
      have htrim : trimStart (blanks ++ rest) = rest := by
        rw [trimStart, List.dropWhile_append_of_pos hblanks]
        cases rest with
        | nil => rfl
        | cons d rest => exact List.dropWhile_cons_of_neg (by simp [hrest d rfl])
      rw [sentences_append_mark hpiece hmark, htrim, ih]

lemma exists_first_mark (h : ¬ ∀ c ∈ s, isSeparator c = false) : ∃ piece c rest, s = piece ++ c :: rest ∧
    (∀ c ∈ piece, isSeparator c = false) ∧ isSeparator c = true := by
  obtain ⟨c, hfind⟩ : ∃ c, s.find? isSeparator = some c := by
    rw [← Option.isSome_iff_exists, List.find?_isSome]
    simpa using h
  obtain ⟨hmark, piece, rest, hs, hpiece⟩ := List.find?_eq_some_iff_append.mp hfind
  exact ⟨piece, c, rest, hs, fun d hd => by simpa using hpiece d hd, hmark⟩

/-- By induction on the length: what follows a mark and its blanks is shorter. -/
lemma cut_sentences (s : List Char) : Cut s (sentences s) := by
  induction hlength : s.length using Nat.strong_induction_on generalizing s with
  | _ n ih =>
      by_cases hmarks : ∀ c ∈ s, isSeparator c = false
      · rw [sentences_of_no_mark hmarks]
        exact .last hmarks
      · obtain ⟨piece, c, rest, rfl, hpiece, hmark⟩ := exists_first_mark hmarks
        have hshorter : (trimStart rest).length < n := by
          have hle := (List.dropWhile_suffix isBlank (l := rest)).length_le
          rw [List.length_append, List.length_cons] at hlength
          rw [trimStart]
          omega
        have hrest : rest = rest.takeWhile isBlank ++ trimStart rest := List.takeWhile_append_dropWhile.symm
        have hhead : ∀ d ∈ (trimStart rest).head?, isBlank d = false := by
          intro d hd
          have hnot := List.head?_dropWhile_not isBlank rest
          rw [show rest.dropWhile isBlank = trimStart rest from rfl, Option.mem_def.mp hd] at hnot
          simpa using hnot
        have hblanks : ∀ d ∈ rest.takeWhile isBlank, isBlank d = true := fun d hd => List.mem_takeWhile_imp hd
        have hcut := Cut.mark hpiece hmark hblanks hhead (ih _ hshorter (trimStart rest) rfl)
        rwa [← hrest, ← sentences_append_mark hpiece hmark] at hcut

/-- **There is one way to cut a text**, and it is taken. -/
theorem cut_iff : Cut s pieces ↔ pieces = sentences s := by
  constructor
  · exact Cut.eq_sentences
  · rintro rfl
    exact cut_sentences s

/-! ## Blank pieces -/

lemma not_isEmpty_trim (s : List Char) : (!(trim s).isEmpty) = s.any fun c => !isBlank c := by
  rw [Bool.eq_iff_iff]
  simp [trim_eq_nil_iff]

/-- Every character of a text stands in a piece, or is a mark, or is a blank behind a mark. -/
lemma Cut.blank_iff (h : Cut s pieces) :
    (∀ piece ∈ pieces, ∀ c ∈ piece, isBlank c = true) ↔ ∀ c ∈ s, isBlank c = true ∨ isSeparator c = true := by
  induction h with
  | @last piece hpiece =>
      rw [List.forall_mem_singleton]
      refine forall₂_congr fun c hc => ?_
      simp [hpiece c hc]
  | @mark piece blanks rest c pieces hpiece hmark hblanks hrest _ ih =>
      have hfirst : (∀ c ∈ piece, isBlank c = true) ↔
          ∀ c ∈ piece, isBlank c = true ∨ isSeparator c = true := by
        refine forall₂_congr fun d hd => ?_
        simp [hpiece d hd]
      have hskipped : ∀ c ∈ blanks, isBlank c = true ∨ isSeparator c = true := fun d hd => .inl (hblanks d hd)
      rw [List.forall_mem_cons, ih, hfirst, List.forall_mem_append, List.forall_mem_cons,
        List.forall_mem_append]
      simp only [hmark, or_true, true_and]
      tauto

/-- **A text that says nothing** has blanks and marks only. -/
theorem statements_eq_nil_iff :
    statements s = [] ↔ ∀ c ∈ s, isBlank c = true ∨ isSeparator c = true := by
  rw [← (cut_sentences s).blank_iff, statements, List.filter_eq_nil_iff]
  refine forall₂_congr fun piece _ => ?_
  simp [trim_eq_nil_iff]

end PrimeReasoner.Sentence
