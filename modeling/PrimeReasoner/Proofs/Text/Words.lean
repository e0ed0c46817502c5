import PrimeReasoner.Proofs.Text.Trim

/-!
# Texts made of words

A sentence is taken apart at phrases such as `" is "`, which are searched for character by character.  In a
text of words with single blanks between them (`unwords`) such a phrase, having a blank at each end, can only
match whole words, so that a cut at characters is a cut between words.

**Finding.**  A phrase is found exactly if it occurs (`occursIn_iff`), and then the two sides surround it
(`breakOn_eq_some`), the left one being as short as it can be (`length_le_of_breakFrom`).

**Cutting.**  Around an occurrence, the words of the text are those of the one side, of the phrase, and of the
other side.  So what is found first in a text of words is the first of the words (`breakOn_unwords`).  Hence a text
is cut at a word that it has only once (`cutOnce_unwords`), not at all at a word that it does not have
(`cutOnce_unwords_of_notMem`), and texts of words that are joined by a further word come apart again
(`splitAll_unwords`).
-/

namespace PrimeReasoner.Text

/-- Words with single blanks between them. -/
def unwords (ws : List (List Char)) : List Char := [' '].intercalate ws

/-- The word is not empty and holds no blank. -/
def IsWord (word : List Char) : Prop := word ≠ [] ∧ ∀ c ∈ word, isBlank c = false

@[simp] lemma unwords_singleton (word : List Char) : unwords [word] = word := List.intercalate_singleton

lemma unwords_cons (word : List Char) {ws : List (List Char)} (h : ws ≠ []) :
    unwords (word :: ws) = word ++ ' ' :: unwords ws := by
  rw [unwords, List.intercalate_cons_of_ne_nil h, List.append_assoc, List.singleton_append, unwords]

lemma unwords_append {xs ys : List (List Char)} (hxs : xs ≠ []) (hys : ys ≠ []) :
    unwords (xs ++ ys) = unwords xs ++ ' ' :: unwords ys := by
  induction xs with
  | nil => exact absurd rfl hxs
  | cons x xs ih =>
      cases xs with
      | nil => rw [List.singleton_append, unwords_cons x hys, unwords_singleton]
      | cons x' xs =>
          rw [List.cons_append, unwords_cons x (by simp), ih (by simp), unwords_cons x (by simp),
            List.append_assoc, List.cons_append]

lemma IsWord.blank_notMem {word : List Char} (h : IsWord word) : ' ' ∉ word := fun hmem =>
  absurd (h.2 ' ' hmem) (by decide)

/-- Joined pieces hold what the pieces and the separator hold. -/
lemma mem_of_mem_intercalate {α : Type} {sep : List α} {pieces : List (List α)} {a : α}
    (h : a ∈ sep.intercalate pieces) : a ∈ sep ∨ ∃ piece ∈ pieces, a ∈ piece := by
  induction pieces with
  | nil => simp at h
  | cons piece pieces ih =>
      cases pieces with
      | nil => exact .inr ⟨piece, List.mem_cons_self, by simpa using h⟩
      | cons next pieces =>
          rw [List.intercalate_cons_cons, List.mem_append, List.mem_append] at h
          rcases h with (h | h) | h
          · exact .inr ⟨piece, List.mem_cons_self, h⟩
          · exact .inl h
          · refine (ih h).imp_right fun ⟨other, hother, hmem⟩ => ?_
            exact ⟨other, List.mem_cons_of_mem piece hother, hmem⟩

lemma intercalate_ne_nil {α : Type} {sep piece : List α} (hpiece : piece ≠ []) (pieces : List (List α)) :
    sep.intercalate (piece :: pieces) ≠ [] := by
  cases pieces with
  | nil => simpa using hpiece
  | cons next pieces => simp [List.intercalate_cons_cons, hpiece]

/-! ## Words and texts -/

lemma splitWhere_eq_splitOnP (p : Char → Bool) (s : List Char) : splitWhere p s = s.splitOnP p := by
  induction s with
  | nil => rfl
  | cons c s ih =>
      rw [splitWhere_cons, List.splitOnP_cons_eq_if_modifyHead, ih]
      cases hpieces : s.splitOnP p with
      | nil => exact absurd hpieces (List.splitOnP_ne_nil p s)
      | cons piece pieces => rfl

variable {ws xs ys ks : List (List Char)} {k : List Char}

lemma splitOn_unwords (hws : ∀ word ∈ ws, IsWord word) (hne : ws ≠ []) :
    (unwords ws).splitOn ' ' = ws :=
  List.splitOn_intercalate ' ' (fun word hword => (hws word hword).blank_notMem) hne

lemma unwords_splitOn (s : List Char) : unwords (s.splitOn ' ') = s := List.intercalate_splitOn ' '

/-- **The words of a text of words.** -/
lemma words_unwords (hws : ∀ word ∈ ws, IsWord word) (hne : ws ≠ []) : words (unwords ws) = ws := by
  have hsplit : splitWhere isBlank (unwords ws) = ws := by
    induction ws with
    | nil => exact absurd rfl hne
    | cons word ws ih =>
        obtain ⟨hword, hrest⟩ := List.forall_mem_cons.mp hws
        rw [splitWhere_eq_splitOnP] at ih ⊢
        cases ws with
        | nil => rw [unwords_singleton, List.splitOnP_eq_singleton hword.2]
        | cons next ws =>
            rw [unwords_cons word (by simp),
              List.splitOnP_append_cons_of_forall_mem hword.2 ' ' (by decide), ih hrest (by simp)]
  rw [words, hsplit, List.filter_eq_self]
  exact fun word hword => by simpa using (hws word hword).1

lemma trimmed_unwords (hws : ∀ word ∈ ws, IsWord word) : Trimmed (unwords ws) := by
  constructor
  · intro c hc
    cases ws with
    | nil => simp [unwords] at hc
    | cons word ws =>
        obtain ⟨⟨hne, hblank⟩, -⟩ := List.forall_mem_cons.mp hws
        obtain ⟨d, rest, rfl⟩ := List.exists_cons_of_ne_nil hne
        rw [unwords, List.intercalate_cons_cons_left] at hc
        obtain rfl : d = c := by simpa using hc
        exact hblank d List.mem_cons_self
  · intro c hc
    rcases List.eq_nil_or_concat' ws with rfl | ⟨before, word, rfl⟩
    · simp [unwords] at hc
    · obtain ⟨hne, hblank⟩ := hws word (by simp)
      obtain ⟨d, rest, rfl⟩ := List.exists_cons_of_ne_nil hne
      have hlast : (unwords (before ++ [d :: rest])).getLast? = (d :: rest).getLast? := by
        cases before with
        | nil => rw [List.nil_append, unwords_singleton]
        | cons first before =>
            rw [unwords_append (by simp) (by simp), unwords_singleton, List.getLast?_append,
              List.getLast?_cons_cons, List.getLast?_cons, Option.some_or]
      rw [hlast] at hc
      exact hblank c (List.mem_of_getLast? hc)

lemma unwords_ne_nil (hws : ∀ word ∈ ws, IsWord word) (hne : ws ≠ []) : unwords ws ≠ [] := by
  intro hnil
  have hwords := words_unwords hws hne
  rw [hnil] at hwords
  exact hne (hwords.symm.trans (by rfl))

/-! ## Finding a phrase -/

/-- What is found is there. -/
lemma breakFrom_eq_some {phrase done s before after : List Char}
    (h : breakFrom phrase done s = some (before, after)) :
    done.reverse ++ s = before ++ (phrase ++ after) := by
  induction s generalizing done with
  | nil =>
      unfold breakFrom at h
      split_ifs at h with hprefix
      obtain ⟨rfl, rfl⟩ := Prod.mk.inj (Option.some.inj h)
      obtain rfl : phrase = [] := by simpa using hprefix
      simp
  | cons c s ih =>
      unfold breakFrom at h
      split_ifs at h with hprefix
      · obtain ⟨rest, hrest⟩ := List.isPrefixOf_iff_prefix.mp hprefix
        obtain ⟨rfl, rfl⟩ := Prod.mk.inj (Option.some.inj h)
        rw [← hrest, List.drop_left]
      · rw [← ih h, List.reverse_cons, List.append_assoc, List.singleton_append]

/-- What is there is found. -/
lemma breakFrom_ne_none {phrase done s : List Char} (h : phrase <:+: s) :
    breakFrom phrase done s ≠ none := by
  induction s generalizing done with
  | nil =>
      obtain rfl := List.infix_nil.mp h
      simp [breakFrom]
  | cons c s ih =>
      unfold breakFrom
      split_ifs with hprefix
      · simp
      · rcases List.infix_cons_iff.mp h with hfirst | hrest
        · exact absurd (List.isPrefixOf_iff_prefix.mpr hfirst) hprefix
        · exact ih hrest

lemma breakOn_eq_some {phrase s before after : List Char} (h : breakOn phrase s = some (before, after)) :
    s = before ++ (phrase ++ after) := breakFrom_eq_some h

/-- No occurrence begins further to the left than the one that is found. -/
lemma length_le_of_breakFrom {phrase done s before after left right : List Char}
    (h : breakFrom phrase done s = some (before, after)) (hs : s = left ++ (phrase ++ right)) :
    before.length ≤ done.length + left.length := by
  induction s generalizing done left with
  | nil =>
      unfold breakFrom at h
      split_ifs at h
      obtain ⟨rfl, -⟩ := Prod.mk.inj (Option.some.inj h)
      simp
  | cons c s ih =>
      unfold breakFrom at h
      split_ifs at h with hprefix
      · obtain ⟨rfl, -⟩ := Prod.mk.inj (Option.some.inj h)
        simp
      · cases left with
        | nil =>
            rw [hs, List.nil_append] at hprefix
            exact absurd (List.isPrefixOf_iff_prefix.mpr (List.prefix_append _ _)) hprefix
        | cons d left =>
            obtain ⟨rfl, rfl⟩ := List.cons.inj hs
            have hle := ih h rfl
            simp only [List.length_cons] at hle ⊢
            omega

lemma occursIn_iff {phrase s : List Char} : occursIn phrase s = true ↔ phrase <:+: s := by
  rw [occursIn, Option.isSome_iff_ne_none]
  constructor
  · intro h
    obtain ⟨⟨before, after⟩, hbreak⟩ := Option.ne_none_iff_exists'.mp h
    rw [breakOn_eq_some hbreak]
    exact ⟨before, after, List.append_assoc _ _ _⟩
  · exact breakFrom_ne_none

lemma occursIn_of_cutOnce {phrase s : List Char} {sides : List Char × List Char}
    (h : cutOnce phrase s = some sides) : occursIn phrase s = true := by
  rw [occursIn, Option.isSome_iff_ne_none]
  intro hnone
  simp [cutOnce, hnone] at h

/-- A text is cut at a phrase that begins with a character which it has nowhere else. -/
lemma cutOnce_of_notMem {c : Char} {phrase before after : List Char} (hbefore : c ∉ before)
    (hafter : c ∉ phrase ++ after) (htrimmed : Trimmed before ∧ Trimmed after) (hne : before ≠ [] ∧ after ≠ []) :
    cutOnce (c :: phrase) (before ++ (c :: phrase ++ after)) = some (before, after) := by
  have hfound : breakOn (c :: phrase) (before ++ (c :: phrase ++ after)) ≠ none :=
    breakFrom_ne_none ⟨before, after, by rw [List.append_assoc]⟩
  obtain ⟨⟨left, right⟩, hbreak⟩ := Option.ne_none_iff_exists'.mp hfound
  have hsides := breakOn_eq_some hbreak
  rw [List.cons_append, List.cons_append] at hsides
  obtain ⟨rfl, -, hright⟩ := (List.append_cons_inj_of_notMem hbefore hafter).mp hsides
  obtain rfl := List.append_cancel_left hright
  have honce : occursIn (c :: phrase) after = false := by
    rw [Bool.eq_false_iff]
    intro hoccurs
    exact hafter (List.mem_append_right _ ((occursIn_iff.mp hoccurs).subset List.mem_cons_self))
  simp only [cutOnce, hbreak, honce, htrimmed.1.trim_eq, htrimmed.2.trim_eq, Bool.false_or, Bool.or_eq_true,
    List.isEmpty_iff, hne.1, hne.2, or_self, if_false]

/-! ## All pieces -/

lemma splitAll_of_not_occursIn {phrase s : List Char} (h : occursIn phrase s = false) :
    splitAll phrase s = [s] := by
  rw [occursIn, Option.isSome_eq_false_iff, Option.isNone_iff_eq_none] at h
  unfold splitAll
  split_ifs
  · rfl
  · split
    · rfl
    · next hbreak => simp [h] at hbreak

lemma splitAll_of_breakOn {phrase s before after : List Char} (hne : phrase ≠ [])
    (h : breakOn phrase s = some (before, after)) :
    splitAll phrase s = before :: splitAll phrase after := by
  rw [splitAll, dif_neg hne]
  split
  · next hbreak => simp [h] at hbreak
  · next hbreak =>
    rw [h] at hbreak
    obtain ⟨rfl, rfl⟩ := Prod.mk.inj (Option.some.inj hbreak)
    rfl

/-! ## Cutting between words -/

/-- Words with a blank at each end. -/
def spaced (ks : List (List Char)) : List Char := ' ' :: (unwords ks ++ [' '])

/-- **Around a phrase**, the words of a text are those of its two sides and of the phrase. -/
lemma splitOn_around_spaced (hks : ∀ word ∈ ks, IsWord word) (hne : ks ≠ []) (before after : List Char) :
    (before ++ (spaced ks ++ after)).splitOn ' ' =
      before.splitOn ' ' ++ (ks ++ after.splitOn ' ') := by
  rw [spaced, List.cons_append, List.append_assoc, List.singleton_append, List.splitOn_append_cons_self,
    List.splitOn_append_cons_self, splitOn_unwords hks hne]

/-- What occurs in a text of words is made of its words. -/
lemma eq_of_unwords_eq (hws : ∀ word ∈ ws, IsWord word) (hws' : ws ≠ []) (hks : ∀ word ∈ ks, IsWord word)
    (hks' : ks ≠ []) {before after : List Char} (h : unwords ws = before ++ (spaced ks ++ after)) :
    ws = before.splitOn ' ' ++ (ks ++ after.splitOn ' ') := by
  rw [← splitOn_around_spaced hks hks', ← h, splitOn_unwords hws hws']

variable (hk : IsWord k) (hks : ∀ word ∈ ks, IsWord word)

include hk hks

lemma occursIn_unwords_of_notMem (hws : ∀ word ∈ ws, IsWord word) (hne : ws ≠ []) (hnew : k ∉ ws) :
    occursIn (spaced (k :: ks)) (unwords ws) = false := by
  rw [Bool.eq_false_iff]
  intro hoccurs
  obtain ⟨before, after, h⟩ := occursIn_iff.mp hoccurs
  rw [List.append_assoc] at h
  apply hnew
  rw [eq_of_unwords_eq hws hne (List.forall_mem_cons.mpr ⟨hk, hks⟩) (by simp) h.symm]
  simp

lemma cutOnce_unwords_of_notMem (hws : ∀ word ∈ ws, IsWord word) (hne : ws ≠ []) (hnew : k ∉ ws) :
    cutOnce (spaced (k :: ks)) (unwords ws) = none := by
  have hoccurs := occursIn_unwords_of_notMem hk hks hws hne hnew
  rw [occursIn, Option.isSome_eq_false_iff, Option.isNone_iff_eq_none] at hoccurs
  rw [cutOnce, hoccurs]

omit hk hks in
lemma unwords_append_spaced (hxs : xs ≠ []) (hks : ks ≠ []) (hys : ys ≠ []) :
    unwords (xs ++ (ks ++ ys)) = unwords xs ++ (spaced ks ++ unwords ys) := by
  rw [unwords_append hxs (by simp [hks]), unwords_append hks hys, spaced, List.cons_append, List.append_assoc,
    List.singleton_append]

/-- **The first occurrence** of a phrase in a text of words is at the first of its first words. -/
lemma breakOn_unwords (hxs : ∀ word ∈ xs, IsWord word) (hxs' : xs ≠ []) (hys : ∀ word ∈ ys, IsWord word)
    (hys' : ys ≠ []) (hbefore : k ∉ xs) :
    breakOn (spaced (k :: ks)) (unwords (xs ++ (k :: ks ++ ys))) = some (unwords xs, unwords ys) := by
  have hphrase : ∀ word ∈ k :: ks, IsWord word := List.forall_mem_cons.mpr ⟨hk, hks⟩
  have htext := unwords_append_spaced hxs' (List.cons_ne_nil k ks) hys'
  have hfound : breakOn (spaced (k :: ks)) (unwords (xs ++ (k :: ks ++ ys))) ≠ none :=
    breakFrom_ne_none ⟨unwords xs, unwords ys, by rw [htext, List.append_assoc]⟩
  obtain ⟨⟨before, after⟩, hbreak⟩ := Option.ne_none_iff_exists'.mp hfound
  have hfirst : before.length ≤ (unwords xs).length := by simpa using length_le_of_breakFrom hbreak htext
  -- the words on both sides of the occurrence are those of the text
  have hsides := splitOn_around_spaced hphrase (by simp) before after
  rw [← breakOn_eq_some hbreak, htext, splitOn_around_spaced hphrase (by simp), splitOn_unwords hxs hxs',
    splitOn_unwords hys hys', List.cons_append, List.cons_append] at hsides
  obtain ⟨hleft, hright⟩ : xs = before.splitOn ' ' ∧ ys = after.splitOn ' ' := by
    rcases List.append_eq_append_iff.mp hsides with ⟨more, hmore, hrest⟩ | ⟨more, hmore, hrest⟩
    · cases more with
      | nil =>
          rw [List.nil_append, List.cons_inj_right] at hrest
          exact ⟨by simpa using hmore.symm, List.append_cancel_left hrest⟩
      | cons word more =>
          -- the occurrence would be further to the right
          obtain ⟨rfl, -⟩ := List.cons.inj hrest
          have hlong : before = unwords (xs ++ k :: more) := by rw [← hmore, unwords_splitOn]
          rw [hlong, unwords_append hxs' (by simp), List.length_append, List.length_cons] at hfirst
          omega
    · cases more with
      | nil =>
          rw [List.nil_append, List.cons_inj_right] at hrest
          exact ⟨by simpa using hmore, (List.append_cancel_left hrest).symm⟩
      | cons word more =>
          obtain ⟨rfl, -⟩ := List.cons.inj hrest
          exact absurd (by simp [hmore]) hbefore
  rw [hbreak, hleft, hright, unwords_splitOn, unwords_splitOn]

/-- **A text is cut at a phrase whose first word it has only once.** -/
lemma cutOnce_unwords (hxs : ∀ word ∈ xs, IsWord word) (hxs' : xs ≠ []) (hys : ∀ word ∈ ys, IsWord word)
    (hys' : ys ≠ []) (hbefore : k ∉ xs) (hafter : k ∉ ks ++ ys) :
    cutOnce (spaced (k :: ks)) (unwords (xs ++ (k :: ks ++ ys))) = some (unwords xs, unwords ys) := by
  have hrest : k ∉ ys := fun hmem => hafter (List.mem_append_right ks hmem)
  simp only [cutOnce, breakOn_unwords hk hks hxs hxs' hys hys' hbefore, (trimmed_unwords hxs).trim_eq,
    (trimmed_unwords hys).trim_eq, occursIn_unwords_of_notMem hk hks hys hys' hrest, Bool.false_or,
    Bool.or_eq_true, List.isEmpty_iff, unwords_ne_nil hxs hxs', unwords_ne_nil hys hys', or_self, if_false]

omit hks in
/-- **Texts of words that are joined by a further word** come apart again. -/
lemma splitAll_unwords {texts : List (List (List Char))} (hne : texts ≠ [])
    (htexts : ∀ text ∈ texts, text ≠ [] ∧ (∀ word ∈ text, IsWord word) ∧ k ∉ text) :
    splitAll (spaced [k]) (unwords ([k].intercalate texts)) = texts.map unwords := by
  induction texts with
  | nil => exact absurd rfl hne
  | cons text texts ih =>
      obtain ⟨⟨htext, hwords, hnew⟩, hrest⟩ := List.forall_mem_cons.mp htexts
      cases texts with
      | nil =>
          rw [List.intercalate_singleton, List.map_singleton,
            splitAll_of_not_occursIn (occursIn_unwords_of_notMem hk (List.forall_mem_nil _) hwords htext hnew)]
      | cons next texts =>
          have hjoined : ∀ word ∈ [k].intercalate (next :: texts), IsWord word := by
            intro word hword
            rcases mem_of_mem_intercalate hword with hword | ⟨other, hother, hword⟩
            · rwa [List.mem_singleton.mp hword]
            · exact (hrest other hother).2.1 word hword
          have hjoined' : [k].intercalate (next :: texts) ≠ [] :=
            intercalate_ne_nil (hrest next List.mem_cons_self).1 texts
          have hphrase : spaced [k] ≠ [] := List.cons_ne_nil _ _
          have hbreak := breakOn_unwords hk (List.forall_mem_nil _) hwords htext hjoined hjoined' hnew
          rw [List.intercalate_cons_of_ne_nil (List.cons_ne_nil _ _), List.append_assoc,
            splitAll_of_breakOn hphrase hbreak, ih (List.cons_ne_nil _ _) hrest]
          rfl

omit hks in
/-- The first word of a text tells what the text begins with. -/
lemma after?_unwords_of_ne (hws : ∀ word ∈ ws, IsWord word) (hne : ws ≠ [])
    (hfirst : ws.head? ≠ some k) : after? (k ++ [' ']) (unwords ws) = none := by
  rw [after?, if_neg]
  intro hprefix
  obtain ⟨rest, hrest⟩ := List.isPrefixOf_iff_prefix.mp hprefix
  rw [List.append_assoc, List.singleton_append] at hrest
  have hwords := splitOn_unwords hws hne
  rw [← hrest, List.splitOn_append_cons_self_of_not_mem hk.blank_notMem] at hwords
  exact hfirst (by rw [← hwords, List.head?_cons])

omit hk hks in
lemma after?_unwords (hne : ws ≠ []) : after? (k ++ [' ']) (unwords (k :: ws)) = some (unwords ws) := by
  have htext : unwords (k :: ws) = k ++ [' '] ++ unwords ws := by
    rw [unwords_cons k hne, List.append_assoc, List.singleton_append]
  rw [after?, htext, if_pos (List.isPrefixOf_iff_prefix.mpr (List.prefix_append _ _)), List.drop_left]

end PrimeReasoner.Text
