import PrimeReasoner.Proofs.Pieces
import PrimeReasoner.Proofs.Sentence
import PrimeReasoner.Proofs.Text.Ascii

/-!
# Statements and the questions that match them

Statements and questions are read in different ways: a statement is cut at a connective, with the connectives
tried in a fixed order, while a question is told by its first word and then cut at another phrase or after the
first word that follows.  For phrases that are free of the words which sentences are told by, both ways lead to
the same fact.

**Phrases.**  A `Phrase` is made of plain words, none of them reserved.  `Statement` and `Question` list the
forms of sentences about two phrases.

**Reading.**  Each form is read as the fact that relates the two phrases, in whatever letter case it is written
(`Statement.readAll_eq`, `Question.question?_eq`).
-/

namespace PrimeReasoner

open Text

/-- The words that sentences are told by. -/
def reservedWords : List String :=
  ["is", "are", "has", "have", "can", "cannot", "like", "likes", "teaches", "part", "of", "a", "an", "the",
    "all", "if", "then", "and", "does"]

/-- Words of letters and digits, none of them reserved in whatever letter case. -/
structure Phrase where
  words : List String
  ne_nil : words ≠ []
  plain : ∀ word ∈ words, IsPlain word.toList
  free : ∀ word ∈ words, word.toLower ∉ reservedWords

namespace Phrase

/-- The phrase as it is written. -/
def text (phrase : Phrase) : String := " ".intercalate phrase.words

/-- Is it a single word? -/
def IsSingle (phrase : Phrase) : Prop := phrase.words.length = 1

/-- The words in small letters. -/
def small (phrase : Phrase) : List (List Char) := phrase.words.map fun word => word.toList.map Char.toLower

end Phrase

/-- The statements that relate two phrases by a predicate. -/
inductive Statement (x y : Phrase) : (predicate text : String) → Prop where
  | is (h : x.IsSingle) : Statement x y "is" s!"{x.text} is {y.text}."
  | are (h : x.IsSingle) : Statement x y "is" s!"{x.text} are {y.text}."
  | has : Statement x y "has" s!"{x.text} has {y.text}."
  | can (h : x.IsSingle) : Statement x y "can" s!"{x.text} can {y.text}."
  | likes : Statement x y "likes" s!"{x.text} likes {y.text}."
  | partOf {first second : String} (h : first ∈ ["", "The "]) (h' : second ∈ ["", "the "]) :
      Statement x y "part of" s!"{first}{x.text} is part of {second}{y.text}."

/-- The questions whether two phrases are related by a predicate. -/
inductive Question (x y : Phrase) : (predicate text : String) → Prop where
  | is (h : x.IsSingle) : Question x y "is" s!"Is {x.text} {y.text}?"
  | are (h : x.IsSingle) : Question x y "is" s!"Are {x.text} {y.text}?"
  | has : Question x y "has" s!"Does {x.text} have {y.text}?"
  | can (h : x.IsSingle) : Question x y "can" s!"Can {x.text} {y.text}?"
  | likes : Question x y "likes" s!"Does {x.text} like {y.text}?"
  | partOf {first second : String} (h : first ∈ ["", "the "]) (h' : second ∈ ["", "the "]) :
      Question x y "part of" s!"Is {first}{x.text} part of {second}{y.text}?"

namespace Sentence

/-! ## Cutting at reserved words -/

/-- Plain words in small letters, none of them reserved. -/
structure Free (ws : List (List Char)) : Prop where
  ne_nil : ws ≠ []
  plain : ∀ word ∈ ws, IsPlain word
  notMem : ∀ word ∈ reservedWords, word.toList ∉ ws

lemma plain_reserved : ∀ word ∈ reservedWords, IsPlain word.toList := by decide +kernel

lemma toLower_reserved : ∀ word ∈ reservedWords, word.toList.map Char.toLower = word.toList := by
  decide +kernel

variable {xs ys as bs ws : List (List Char)} {k k' predicate : String}

lemma isWord_reserved (hk : k ∈ reservedWords) : IsWord k.toList := (plain_reserved k hk).isWord

lemma Free.isWord (hx : Free xs) : ∀ word ∈ xs, IsWord word := fun word hword => (hx.plain word hword).isWord

lemma Free.cutOnce (hx : Free xs) (hy : Free ys) (hk : k ∈ reservedWords) :
    Text.cutOnce (spaced [k.toList]) (unwords (xs ++ k.toList :: ys)) = some (unwords xs, unwords ys) :=
  cutOnce_unwords (isWord_reserved hk) (by simp) hx.isWord hx.ne_nil hy.isWord hy.ne_nil (hx.notMem k hk)
    (hy.notMem k hk)

lemma Free.plain_around (hx : Free xs) (hy : Free ys) (hk : k ∈ reservedWords) :
    ∀ word ∈ xs ++ k.toList :: ys, IsPlain word := by
  rw [List.forall_mem_append, List.forall_mem_cons]
  exact ⟨hx.plain, plain_reserved k hk, hy.plain⟩

/-- A text with one reserved word is not cut at another. -/
lemma Free.cutOnce_other (hx : Free xs) (hy : Free ys) (hk : k ∈ reservedWords) (hk' : k' ∈ reservedWords)
    (hne : k' ≠ k) {ks : List (List Char)} (hks : ∀ word ∈ ks, IsWord word) :
    Text.cutOnce (spaced (k'.toList :: ks)) (unwords (xs ++ k.toList :: ys)) = none := by
  refine cutOnce_unwords_of_notMem (isWord_reserved hk') hks
    (fun word hword => (hx.plain_around hy hk word hword).isWord) (by simp) ?_
  rw [List.mem_append, List.mem_cons, String.toList_inj]
  simp only [hne, hx.notMem k' hk', hy.notMem k' hk', or_self, not_false_eq_true]

/-- In a list with distinct keys, the entry of a key is found if it is the only one with a result. -/
lemma findSome?_of_key {α β : Type} {entries : List (String × α)} (hnodup : (entries.map Prod.fst).Nodup)
    {f : String × α → Option β} {key : String} {value : α} {b : β} (hmem : (key, value) ∈ entries)
    (hfound : f (key, value) = some b) (hother : ∀ entry ∈ entries, entry.1 ≠ key → f entry = none) :
    entries.findSome? f = some b := by
  obtain ⟨before, after, rfl⟩ := List.append_of_mem hmem
  refine List.findSome?_eq_some_iff.mpr ⟨before, _, after, rfl, hfound, fun entry hentry => ?_⟩
  refine hother entry (List.mem_append_left _ hentry) ?_
  rintro rfl
  rw [List.map_append, List.nodup_append] at hnodup
  exact hnodup.2.2 entry.1 (List.mem_map_of_mem hentry) entry.1 (by simp) rfl

/-! ## Statements -/

/-- The words of the connectives, with the predicates that they stand for. -/
def connectiveWords : List (String × String) :=
  [("is", "is"), ("are", "is"), ("has", "has"), ("can", "can"), ("cannot", "cannot"), ("likes", "likes"),
    ("teaches", "teaches")]

lemma connectives_eq :
    connectives = connectiveWords.map fun (word, predicate) => ⟨s!" {word} ", predicate⟩ := by
  simp [connectives, connectiveWords, toString]

lemma mem_reservedWords_of_connective (h : (k, predicate) ∈ connectiveWords) :
    k ∈ reservedWords ∧ "part" ≠ k := by
  simp only [connectiveWords, List.mem_cons, List.not_mem_nil, or_false, Prod.mk.injEq] at h
  rcases h with ⟨rfl, -⟩ | ⟨rfl, -⟩ | ⟨rfl, -⟩ | ⟨rfl, -⟩ | ⟨rfl, -⟩ | ⟨rfl, -⟩ | ⟨rfl, -⟩ <;>
    simp [reservedWords]

/-- **A statement is cut at its connective**, as the others do not occur in it. -/
lemma Free.findSome?_connectives (hx : Free xs) (hy : Free ys) (hword : (k, predicate) ∈ connectiveWords) :
    (connectives.findSome? fun connective => connective.read? (unwords (xs ++ k.toList :: ys))) =
      some (relate predicate (unwords xs) (unwords ys)) := by
  have hspaced : ∀ word : String, (s!" {word} ").toList = spaced [word.toList] := by simp [spaced, toString]
  obtain ⟨hreserved, -⟩ := mem_reservedWords_of_connective hword
  rw [connectives_eq, List.findSome?_map]
  refine findSome?_of_key (by simp [connectiveWords]) hword ?_ fun entry hentry hne => ?_
  · simp only [Function.comp_apply, Connective.read?, hspaced, hx.cutOnce hy hreserved, Option.map_some]
  · obtain ⟨hreserved', -⟩ := mem_reservedWords_of_connective hentry
    simp only [Function.comp_apply, Connective.read?, hspaced, hx.cutOnce_other hy hreserved hreserved' hne
      (List.forall_mem_nil _), Option.map_none]

lemma partPhrase_eq : partPhrase = spaced ["part".toList, "of".toList] := by decide +kernel

lemma isWord_of : ∀ word ∈ ["of".toList], IsWord word := by
  simpa using (isWord_reserved (show "of" ∈ reservedWords by simp [reservedWords]))

lemma Free.partFact?_eq_none (hx : Free xs) (hy : Free ys) (hk : k ∈ reservedWords) (hne : "part" ≠ k) :
    partFact? (unwords (xs ++ k.toList :: ys)) = none := by
  have hpart : "part" ∈ reservedWords := by simp [reservedWords]
  simp only [partFact?, partPhrase_eq, hx.cutOnce_other hy hk hpart hne isWord_of]

/-- No article, or one. -/
def articles : List (List (List Char)) := [[], ["the".toList]]

lemma mem_articles : as ∈ articles ↔ as = [] ∨ as = ["the".toList] := by simp [articles]

lemma Free.withoutArticle (hx : Free xs) (has : as ∈ articles) :
    withoutArticle (unwords (as ++ xs)) = unwords xs := by
  have hthe : "the" ∈ reservedWords := by simp [reservedWords]
  have hphrase : "the ".toList = "the".toList ++ [' '] := by simp
  rw [Sentence.withoutArticle, hphrase]
  rcases mem_articles.mp has with rfl | rfl
  · rw [List.nil_append, after?_unwords_of_ne (isWord_reserved hthe) hx.isWord hx.ne_nil]
    intro hhead
    exact hx.notMem _ hthe (List.mem_of_head? hhead)
  · rw [List.singleton_append, after?_unwords hx.ne_nil]
    exact (trimmed_unwords hx.isWord).trim_eq

lemma withoutVerb_unwords (hws : ∀ word ∈ ws, IsWord word) (hne : ws ≠ []) :
    withoutVerb (unwords (ws ++ ["is".toList])) = unwords ws := by
  have his : ' ' :: "is".toList = " is".toList := by simp
  have hlength : (unwords ws ++ " is".toList).length - 3 = (unwords ws).length := by simp
  rw [unwords_append hne (by simp), unwords_singleton, his, withoutVerb,
    if_pos (List.isSuffixOf_iff_suffix.mpr (List.suffix_append _ _)), hlength, List.take_left,
    (trimmed_unwords hws).trim_eq]

lemma Free.plain_article (hx : Free xs) (has : as ∈ articles) : ∀ word ∈ as ++ xs, IsPlain word := by
  rw [List.forall_mem_append]
  refine ⟨?_, hx.plain⟩
  rcases mem_articles.mp has with rfl | rfl
  · simp
  · simpa using plain_reserved "the" (by simp [reservedWords])

lemma Free.notMem_article (hx : Free xs) (has : as ∈ articles) (hk : k ∈ reservedWords) (hne : k ≠ "the") :
    k.toList ∉ as ++ xs := by
  rcases mem_articles.mp has with rfl | rfl
  · exact hx.notMem k hk
  · rw [List.singleton_append, List.mem_cons, not_or, String.toList_inj]
    exact ⟨hne, hx.notMem k hk⟩

/-- What comes before and after the relation of part and whole. -/
lemma cutOnce_partPhrase (hxs : ∀ word ∈ xs, IsPlain word) (hxs' : xs ≠ []) (hys : ∀ word ∈ ys, IsPlain word)
    (hys' : ys ≠ []) (hpart : "part".toList ∉ xs) (hpart' : "part".toList ∉ ys) :
    Text.cutOnce partPhrase (unwords (xs ++ "part".toList :: "of".toList :: ys)) =
      some (unwords xs, unwords ys) := by
  have hword : IsWord "part".toList := isWord_reserved (by simp [reservedWords])
  rw [partPhrase_eq]
  refine cutOnce_unwords hword isWord_of (fun word h => (hxs word h).isWord) hxs'
    (fun word h => (hys word h).isWord) hys' hpart ?_
  rw [List.singleton_append, List.mem_cons, not_or, String.toList_inj]
  exact ⟨by decide, hpart'⟩

/-- **A statement about a part** is cut at its phrase, and loses its verb and its articles. -/
lemma Free.partFact?_eq (hx : Free xs) (hy : Free ys) (has : as ∈ articles) (hbs : bs ∈ articles) :
    partFact? (unwords (as ++ xs ++ ["is".toList] ++ "part".toList :: "of".toList :: (bs ++ ys))) =
      some (relate "part of" (unwords xs) (unwords ys)) := by
  have hpart : "part" ∈ reservedWords := by simp [reservedWords]
  have hplain := hx.plain_article has
  have hverb : ∀ word ∈ as ++ xs ++ ["is".toList], IsPlain word := by
    rw [List.forall_mem_append]
    exact ⟨hplain, by simpa using plain_reserved "is" (by simp [reservedWords])⟩
  have hnone : "part".toList ∉ as ++ xs ++ ["is".toList] := by
    rw [List.mem_append, not_or, List.mem_singleton, String.toList_inj]
    exact ⟨hx.notMem_article has hpart (by decide), by decide⟩
  rw [partFact?, cutOnce_partPhrase hverb (by simp) (hy.plain_article hbs) (by simp [hy.ne_nil]) hnone
    (hy.notMem_article hbs hpart (by decide))]
  dsimp only
  rw [withoutVerb_unwords (fun word h => (hplain word h).isWord) (by simp [hx.ne_nil]),
    hx.withoutArticle has, hy.withoutArticle hbs, if_neg]
  simp [unwords_ne_nil hx.isWord hx.ne_nil, unwords_ne_nil hy.isWord hy.ne_nil]

/-! ## Questions -/

lemma Free.subjectFirst? {x : List Char} (hx : Free [x]) (hy : Free ys) (predicate : String) :
    subjectFirst? predicate (unwords (x :: ys)) = some (relate predicate (unwords [x]) (unwords ys)) := by
  have hwords : words (unwords (x :: ys)) = x :: ys :=
    words_unwords (List.forall_mem_cons.mpr ⟨hx.isWord x (by simp), hy.isWord⟩) (by simp)
  obtain ⟨y, more, rfl⟩ := List.exists_cons_of_ne_nil hy.ne_nil
  rw [Sentence.subjectFirst?, hwords, unwords_singleton]
  rfl

/-- A question without an article and without a relation of part and whole: the first word is the subject. -/
lemma Free.afterIs?_eq {x : List Char} (hx : Free [x]) (hy : Free ys) :
    afterIs? (unwords (x :: ys)) = some (relate "is" (unwords [x]) (unwords ys)) := by
  have hoccurs : ∀ k ∈ reservedWords, ∀ ks, (∀ word ∈ ks, IsWord word) →
      occursIn (spaced (k.toList :: ks)) (unwords (x :: ys)) = false := by
    intro k hk ks hks
    refine occursIn_unwords_of_notMem (isWord_reserved hk) hks
      (List.forall_mem_cons.mpr ⟨hx.isWord x (by simp), hy.isWord⟩) (by simp) ?_
    rw [List.mem_cons, not_or, ← List.mem_singleton]
    exact ⟨hx.notMem k hk, hy.notMem k hk⟩
  have ha : " a ".toList = spaced ["a".toList] := by simp [spaced]
  have han : " an ".toList = spaced ["an".toList] := by simp [spaced]
  rw [afterIs?, partPhrase_eq, ha, han, hoccurs _ (by simp [reservedWords]) _ isWord_of,
    hoccurs _ (by simp [reservedWords]) [] (by simp), hoccurs _ (by simp [reservedWords]) [] (by simp)]
  exact hx.subjectFirst? hy "is"

lemma Free.afterIs?_part (hx : Free xs) (hy : Free ys) (has : as ∈ articles) (hbs : bs ∈ articles) :
    afterIs? (unwords (as ++ xs ++ "part".toList :: "of".toList :: (bs ++ ys))) =
      some (relate "part of" (unwords xs) (unwords ys)) := by
  have hpart : "part" ∈ reservedWords := by simp [reservedWords]
  have hcut := cutOnce_partPhrase (hx.plain_article has) (by simp [hx.ne_nil]) (hy.plain_article hbs)
    (by simp [hy.ne_nil]) (hx.notMem_article has hpart (by decide))
    (hy.notMem_article hbs hpart (by decide))
  rw [afterIs?, if_pos (occursIn_of_cutOnce hcut), hcut, Option.map_some]
  dsimp only
  rw [hx.withoutArticle has, hy.withoutArticle hbs]

lemma Free.afterDoes?_have (hx : Free xs) (hy : Free ys) :
    afterDoes? (unwords (xs ++ "have".toList :: ys)) = some (relate "has" (unwords xs) (unwords ys)) := by
  have hhave : " have ".toList = spaced ["have".toList] := by simp [spaced]
  rw [afterDoes?, hhave, hx.cutOnce hy (by simp [reservedWords])]

lemma Free.afterDoes?_like (hx : Free xs) (hy : Free ys) :
    afterDoes? (unwords (xs ++ "like".toList :: ys)) = some (relate "likes" (unwords xs) (unwords ys)) := by
  have hhave : " have ".toList = spaced ["have".toList] := by simp [spaced]
  have hlike : " like ".toList = spaced ["like".toList] := by simp [spaced]
  rw [afterDoes?, hhave, hx.cutOnce_other hy (by simp [reservedWords]) (by simp [reservedWords]) (by decide)
    (by simp), hlike, hx.cutOnce hy (by simp [reservedWords]), Option.map_some]

/-- The words that questions are told by. -/
def openingWords : List (String × (List Char → Option Fact)) :=
  [("is", afterIs?), ("are", Sentence.subjectFirst? "is"), ("does", afterDoes?),
    ("can", Sentence.subjectFirst? "can")]

lemma openings_eq : openings = openingWords.map fun (word, read) => (s!"{word} ", read) := by
  simp [openings, openingWords, toString]

lemma mem_reservedWords_of_opening {read : List Char → Option Fact} (h : (k, read) ∈ openingWords) :
    k ∈ reservedWords := by
  simp only [openingWords, List.mem_cons, List.not_mem_nil, or_false, Prod.mk.injEq] at h
  rcases h with ⟨rfl, -⟩ | ⟨rfl, -⟩ | ⟨rfl, -⟩ | ⟨rfl, -⟩ <;> simp [reservedWords]

/-- **A question is told by its first word.** -/
lemma question?_eq {s : List Char} {read : List Char → Option Fact} {fact : Fact}
    (htidy : tidy s = unwords (k.toList :: ws)) (hws : ∀ word ∈ ws, IsPlain word) (hne : ws ≠ [])
    (hopening : (k, read) ∈ openingWords) (hread : read (unwords ws) = some fact) :
    question? s = some fact := by
  have hspaced : ∀ word : String, (s!"{word} ").toList = word.toList ++ [' '] := by simp [toString]
  have hwords : ∀ word ∈ ws, IsWord word := fun word h => (hws word h).isWord
  have hfirst := isWord_reserved (mem_reservedWords_of_opening hopening)
  rw [question?, htidy, openings_eq, List.findSome?_map]
  refine findSome?_of_key (by simp [openingWords]) hopening ?_ fun entry hentry hother => ?_
  · simp only [Function.comp_apply, hspaced, after?_unwords hne, Option.bind_some,
      (trimmed_unwords hwords).trim_eq, hread]
  · have hhead : (k.toList :: ws).head? ≠ some entry.1.toList := by
      rw [List.head?_cons, Ne, Option.some.injEq, String.toList_inj]
      exact hother.symm
    simp only [Function.comp_apply, hspaced, after?_unwords_of_ne
      (isWord_reserved (mem_reservedWords_of_opening hentry)) (List.forall_mem_cons.mpr ⟨hfirst, hwords⟩)
      (List.cons_ne_nil _ _) hhead, Option.bind_none]

/-! ## Tidying -/

/-- Marks at the end of a sentence: none, or one that may close it. -/
def endings : List (List Char) := [[], ['.'], ['?'], ['!'], [','], [';']]

lemma withoutMark_append {s mark : List Char} (hmark : mark ∈ endings)
    (hlast : ∀ c ∈ s.getLast?, isClosingMark c = false) : withoutMark (s ++ mark) = s := by
  simp only [endings, List.mem_cons, List.not_mem_nil, or_false] at hmark
  rcases hmark with rfl | hmark
  · rw [List.append_nil, withoutMark]
    split
    · next c hc => rw [if_neg (by simp [hlast c hc])]
    · rfl
  · obtain ⟨c, rfl, hc⟩ : ∃ c, mark = [c] ∧ isClosingMark c = true := by
      rcases hmark with rfl | rfl | rfl | rfl | rfl <;> exact ⟨_, rfl, by decide⟩
    rw [withoutMark, List.getLast?_concat]
    dsimp only
    rw [if_pos hc, List.dropLast_concat]

lemma trimmed_append {s mark : List Char} (hs : Trimmed s) (hmark : mark ∈ endings) : Trimmed (s ++ mark) := by
  have hblank : ∀ c ∈ mark, isBlank c = false := by
    have hall : (endings.all fun mark => mark.all fun c => !isBlank c) = true := by decide
    simpa using List.all_eq_true.mp hall mark hmark
  constructor
  · intro c hc
    rw [List.head?_append, Option.mem_def, Option.or_eq_some_iff] at hc
    rcases hc with hc | ⟨-, hc⟩
    · exact hs.1 c hc
    · exact hblank c (List.mem_of_head? hc)
  · intro c hc
    rw [List.getLast?_append, Option.mem_def, Option.or_eq_some_iff] at hc
    rcases hc with hc | ⟨-, hc⟩
    · exact hblank c (List.mem_of_getLast? hc)
    · exact hs.2 c hc

/-- **Tidying** leaves a trimmed text in small letters, without the mark at its end. -/
lemma tidy_of_lower_append {s t mark : List Char} (ht : Trimmed t) (hmark : mark ∈ endings)
    (hlast : ∀ c ∈ t.getLast?, isClosingMark c = false) (h : lower s = t ++ mark) : tidy s = t := by
  rw [tidy, h, (trimmed_append ht hmark).trim_eq, withoutMark_append hmark hlast, ht.trim_eq]

/-- A text that ends with a plain word ends with no mark. -/
lemma last_unwords (hws : ∀ word ∈ ws, IsPlain word) :
    ∀ c ∈ (unwords ws).getLast?, isClosingMark c = false := by
  have hmarks : ∀ c ∈ ['.', '?', '!', ',', ';'], ¬ (c.isAlphanum = true ∨ c = ' ') := by
    simp only [List.forall_mem_cons]
    exact ⟨by decide, by decide, by decide, by decide, by decide, List.forall_mem_nil _⟩
  intro c hlast
  rw [Bool.eq_false_iff]
  intro hmark
  rw [isClosingMark, List.contains_iff_mem] at hmark
  exact hmarks c hmark (mem_unwords_plain hws (List.mem_of_getLast? hlast))

/-- **Tidying a sentence** leaves its words in small letters, without the mark. -/
lemma tidy_of_lower_unwords {s mark : List Char} (hws : ∀ word ∈ ws, IsPlain word) (hmark : mark ∈ endings)
    (h : lower s = unwords ws ++ mark) : tidy s = unwords ws :=
  tidy_of_lower_append (trimmed_unwords fun word hword => (hws word hword).isWord) hmark (last_unwords hws) h

/-- A statement is a single piece of text, up to its mark. -/
lemma statements_eq {s : List Char} (hws : ∀ word ∈ ws, IsPlain word) (hne : ws ≠ [])
    (h : s.map Char.toLower = unwords ws) : statements (s ++ ['.']) = [s] := by
  have hmarks : ∀ c ∈ ['.', '!', '?'], ¬ (c.toLower.isAlphanum = true ∨ c.toLower = ' ') := by
    simp only [List.forall_mem_cons]
    exact ⟨by decide, by decide, by decide, List.forall_mem_nil _⟩
  have hpiece : ∀ c ∈ s, isSeparator c = false := by
    intro c hc
    rw [Bool.eq_false_iff]
    intro hseparator
    rw [isSeparator, List.contains_iff_mem] at hseparator
    exact hmarks c hseparator (mem_unwords_plain hws (h ▸ List.mem_map_of_mem hc))
  have hkept : trim s ≠ [] := by
    have hlower := lower_of_map_toLower h (toNat_lt_of_mem_unwords hws)
    have hwords : ∀ word ∈ ws, IsWord word := fun word hword => (hws word hword).isWord
    obtain ⟨d, rest, hcons⟩ := List.exists_cons_of_ne_nil (unwords_ne_nil hwords hne)
    have hhead : (unwords ws).head? = some d := by rw [hcons, List.head?_cons]
    have hblank : isBlank d = false := (trimmed_unwords hwords).1 d hhead
    cases s with
    | nil => simp [← h] at hcons
    | cons c s =>
        rw [← hlower] at hhead
        rw [isBlank_head_lowerOnto rfl hhead] at hblank
        exact trim_ne_nil_of_mem List.mem_cons_self hblank
  have hrest : sentences (trimStart []) = [[]] := rfl
  have hempty : trim [] = [] := rfl
  rw [statements, sentences_append_mark hpiece (by decide), hrest]
  simp [hkept, hempty]

lemma Free.head?_append_ne (hx : Free xs) (hk : k ∈ reservedWords) : (xs ++ ws).head? ≠ some k.toList := by
  obtain ⟨x, more, rfl⟩ := List.exists_cons_of_ne_nil hx.ne_nil
  intro hhead
  rw [List.cons_append, List.head?_cons, Option.some.injEq] at hhead
  exact hx.notMem k hk (hhead ▸ List.mem_cons_self)

/-- A statement that begins neither with "all" nor with "if" teaches a fact. -/
lemma read_eq_fact {s : List Char} {fact : Fact} (hws : ∀ word ∈ ws, IsPlain word) (hne : ws ≠ [])
    (hall : ws.head? ≠ some "all".toList) (hif : ws.head? ≠ some "if".toList) (htidy : tidy s = unwords ws)
    (hfact : fact? s = some fact) : Lesson.read s = .fact fact := by
  have hwords : ∀ word ∈ ws, IsWord word := fun word hword => (hws word hword).isWord
  have hall' : after? "all ".toList (unwords ws) = none := by
    simpa using after?_unwords_of_ne (isWord_reserved (by simp [reservedWords])) hwords hne hall
  have hif' : after? "if ".toList (unwords ws) = none := by
    simpa using after?_unwords_of_ne (isWord_reserved (by simp [reservedWords])) hwords hne hif
  have hrule : rule? s = none := by rw [rule?, htidy, quantified?, hall', implication?, hif']
  rw [Lesson.read, hrule, hfact]

/-- **A statement with a connective** is read as its fact. -/
lemma Free.fact?_connective (hx : Free xs) (hy : Free ys) (hword : (k, predicate) ∈ connectiveWords)
    {s : List Char} (htidy : tidy s = unwords (xs ++ k.toList :: ys)) :
    fact? s = some (relate predicate (unwords xs) (unwords ys)) := by
  obtain ⟨hk, hpart⟩ := mem_reservedWords_of_connective hword
  rw [fact?, htidy, hx.partFact?_eq_none hy hk hpart]
  exact hx.findSome?_connectives hy hword

/-- **What a statement with a connective teaches.** -/
lemma Free.read_connective (hx : Free xs) (hy : Free ys) (hword : (k, predicate) ∈ connectiveWords)
    {s : List Char} (htidy : tidy s = unwords (xs ++ k.toList :: ys)) :
    Lesson.read s = .fact (relate predicate (unwords xs) (unwords ys)) := by
  obtain ⟨hk, -⟩ := mem_reservedWords_of_connective hword
  exact read_eq_fact (hx.plain_around hy hk) (by simp) (hx.head?_append_ne (by simp [reservedWords]))
    (hx.head?_append_ne (by simp [reservedWords])) htidy (hx.fact?_connective hy hword htidy)

lemma Free.head?_article_ne (hx : Free xs) (has : as ∈ articles) (hk : k ∈ reservedWords) (hne : k ≠ "the") :
    (as ++ xs ++ ws).head? ≠ some k.toList := by
  rcases mem_articles.mp has with rfl | rfl
  · exact hx.head?_append_ne hk
  · rw [List.append_assoc, List.singleton_append, List.head?_cons, Ne, Option.some.injEq, String.toList_inj]
    exact hne.symm

lemma Free.plain_part (hx : Free xs) (hy : Free ys) (has : as ∈ articles) (hbs : bs ∈ articles) :
    ∀ word ∈ as ++ xs ++ ["is".toList] ++ "part".toList :: "of".toList :: (bs ++ ys), IsPlain word := by
  rw [List.append_assoc, List.forall_mem_append, List.singleton_append, List.forall_mem_cons,
    List.forall_mem_cons, List.forall_mem_cons]
  exact ⟨hx.plain_article has, plain_reserved "is" (by simp [reservedWords]),
    plain_reserved "part" (by simp [reservedWords]), plain_reserved "of" (by simp [reservedWords]),
    hy.plain_article hbs⟩

/-- **A statement about a part** is read as its fact. -/
lemma Free.fact?_part (hx : Free xs) (hy : Free ys) (has : as ∈ articles) (hbs : bs ∈ articles)
    {s : List Char} (htidy : tidy s =
      unwords (as ++ xs ++ ["is".toList] ++ "part".toList :: "of".toList :: (bs ++ ys))) :
    fact? s = some (relate "part of" (unwords xs) (unwords ys)) := by
  rw [fact?, htidy, hx.partFact?_eq hy has hbs]

/-- **What a statement about a part teaches.** -/
lemma Free.read_part (hx : Free xs) (hy : Free ys) (has : as ∈ articles) (hbs : bs ∈ articles)
    {s : List Char} (htidy : tidy s =
      unwords (as ++ xs ++ ["is".toList] ++ "part".toList :: "of".toList :: (bs ++ ys))) :
    Lesson.read s = .fact (relate "part of" (unwords xs) (unwords ys)) := by
  have hfirst : ∀ k ∈ reservedWords, k ≠ "the" →
      (as ++ xs ++ ["is".toList] ++ "part".toList :: "of".toList :: (bs ++ ys)).head? ≠ some k.toList :=
    fun k hk hne => by
      rw [List.append_assoc]
      exact hx.head?_article_ne has hk hne
  exact read_eq_fact (hx.plain_part hy has hbs) (by simp) (hfirst "all" (by simp [reservedWords]) (by decide))
    (hfirst "if" (by simp [reservedWords]) (by decide)) htidy (hx.fact?_part hy has hbs htidy)

end Sentence

/-! ## Phrases -/

namespace Phrase

variable (x y : Phrase)

lemma free_small : Sentence.Free x.small := by
  refine ⟨by simpa [small] using x.ne_nil, fun word hword => ?_, fun k hk hsmall => ?_⟩
  · obtain ⟨word, hmem, rfl⟩ := List.mem_map.mp hword
    exact (x.plain word hmem).map_toLower
  · obtain ⟨word, hmem, heq⟩ := List.mem_map.mp hsmall
    have hlower : word.toLower = k := String.toList_inj.mp (String.toList_map.trans heq)
    exact x.free word hmem (hlower ▸ hk)

/-- The phrase in small letters. -/
lemma map_toLower_text : x.text.toList.map Char.toLower = unwords x.small := by
  rw [text, String.toList_intercalate]
  exact (map_toLower_unwords _).trans (by rw [List.map_map]; rfl)

/-- A text of plain words, in its normal spelling. -/
lemma normalize_words {given : List String} (hgiven : ∀ word ∈ given, IsPlain word.toList) :
    normalize (" ".intercalate given) =
      String.ofList (unwords (given.map fun word => word.toList.map Char.toLower)) := by
  have htext : (" ".intercalate given).toList = unwords (given.map String.toList) := String.toList_intercalate ..
  have hwords : ∀ word ∈ given.map String.toList, IsWord word := by
    intro word hword
    obtain ⟨given, hmem, rfl⟩ := List.mem_map.mp hword
    exact (hgiven given hmem).isWord
  have hsmall : ∀ word ∈ given.map fun word => word.toList.map Char.toLower, IsPlain word := by
    intro word hword
    obtain ⟨given, hmem, rfl⟩ := List.mem_map.mp hword
    exact (hgiven given hmem).map_toLower
  have hlower : (unwords (given.map String.toList)).map Char.toLower =
      unwords (given.map fun word => word.toList.map Char.toLower) := by
    rw [map_toLower_unwords, List.map_map]
    rfl
  rw [normalize, htext, (trimmed_unwords hwords).trim_eq,
    lower_of_map_toLower hlower (toNat_lt_of_mem_unwords hsmall)]

lemma normalize_text : normalize x.text = String.ofList (unwords x.small) := normalize_words x.plain

/-- The phrase in small letters is another spelling of it. -/
lemma normalize_small : normalize (String.ofList (unwords x.small)) = normalize x.text := by
  rw [← normalize_text, normalize_normalize]

lemma relate_small (predicate : String) :
    Sentence.relate predicate (unwords x.small) (unwords y.small) = Fact.of x.text predicate y.text := by
  rw [Sentence.relate, Fact.of, Fact.of, x.normalize_small, y.normalize_small]

lemma small_of_isSingle {x : Phrase} (h : x.IsSingle) : ∃ word, x.small = [word] :=
  List.length_eq_one_iff.mp (by rw [small, List.length_map]; exact h)

/-- An article with the phrase behind it, in small letters. -/
lemma map_toLower_article {article : String} (h : article ∈ ["", "The ", "the "]) :
    ∃ as ∈ Sentence.articles,
      article.toList.map Char.toLower ++ unwords x.small = unwords (as ++ x.small) := by
  rw [List.mem_cons] at h
  rcases h with rfl | h
  · exact ⟨[], by simp [Sentence.articles], rfl⟩
  · have hthe : article.toList.map Char.toLower = "the".toList ++ [' '] := by
      simp only [List.mem_cons, List.not_mem_nil, or_false] at h
      rcases h with rfl | rfl <;> decide
    refine ⟨["the".toList], by simp [Sentence.articles], ?_⟩
    rw [hthe, List.singleton_append, unwords_cons _ x.free_small.ne_nil, List.append_assoc,
      List.singleton_append]

end Phrase

/-! ## Statements and questions about phrases -/

variable {x y : Phrase} {predicate text : String}

/-- The statement is written with these words, and they are read as the fact. -/
structure Statement.Words (text : String) (ws : List (List Char)) (fact : Fact) : Prop where
  text : text.toList.map Char.toLower = unwords ws ++ ['.']
  plain : ∀ word ∈ ws, IsPlain word
  ne_nil : ws ≠ []
  read : ∀ s, Sentence.tidy s = unwords ws → Lesson.read s = .fact fact

lemma Statement.words_of_connective (word : String)
    (hword : (word, predicate) ∈ Sentence.connectiveWords)
    (htext : text.toList = x.text.toList ++ ' ' :: (word.toList ++ ' ' :: (y.text.toList ++ ['.']))) :
    ∃ ws, Statement.Words text ws (Fact.of x.text predicate y.text) := by
  have hx := x.free_small
  have hy := y.free_small
  obtain ⟨hreserved, -⟩ := Sentence.mem_reservedWords_of_connective hword
  refine ⟨x.small ++ word.toList :: y.small, ?_, hx.plain_around hy hreserved, by simp, fun s htidy => ?_⟩
  · have hmarks : ' '.toLower = ' ' ∧ '.'.toLower = '.' := by decide
    rw [htext, unwords_append hx.ne_nil (by simp), unwords_cons _ hy.ne_nil]
    simp [x.map_toLower_text, y.map_toLower_text, Sentence.toLower_reserved word hreserved, hmarks]
  · rw [hx.read_connective hy hword htidy, x.relate_small y]

lemma Statement.words_of_part {first second : String} (h : first ∈ ["", "The "])
    (h' : second ∈ ["", "the "]) (htext : text.toList = first.toList ++ (x.text.toList ++
      (" is part of ".toList ++ (second.toList ++ (y.text.toList ++ ['.']))))) :
    ∃ ws, Statement.Words text ws (Fact.of x.text "part of" y.text) := by
  have hx := x.free_small
  have hy := y.free_small
  obtain ⟨as, has, harticle⟩ := x.map_toLower_article (show first ∈ ["", "The ", "the "] by grind)
  obtain ⟨bs, hbs, harticle'⟩ := y.map_toLower_article (show second ∈ ["", "The ", "the "] by grind)
  refine ⟨as ++ x.small ++ ["is".toList] ++ "part".toList :: "of".toList :: (bs ++ y.small), ?_,
    hx.plain_part hy has hbs, by simp, fun s htidy => ?_⟩
  · have hne : as ++ x.small ≠ [] := by simp [hx.ne_nil]
    have hne' : bs ++ y.small ≠ [] := by simp [hy.ne_nil]
    rw [htext, List.append_assoc, unwords_append hne (by simp), List.singleton_append,
      unwords_cons _ (by simp), unwords_cons _ (by simp), unwords_cons _ hne', ← harticle, ← harticle']
    simp [x.map_toLower_text, y.map_toLower_text]
  · rw [hx.read_part hy has hbs htidy, x.relate_small y]

lemma Statement.exists_words (h : Statement x y predicate text) :
    ∃ ws, Statement.Words text ws (Fact.of x.text predicate y.text) := by
  cases h with
  | is _ => exact words_of_connective "is" (by simp [Sentence.connectiveWords]) (by simp [toString])
  | are _ => exact words_of_connective "are" (by simp [Sentence.connectiveWords]) (by simp [toString])
  | has => exact words_of_connective "has" (by simp [Sentence.connectiveWords]) (by simp [toString])
  | can _ => exact words_of_connective "can" (by simp [Sentence.connectiveWords]) (by simp [toString])
  | likes => exact words_of_connective "likes" (by simp [Sentence.connectiveWords]) (by simp [toString])
  | partOf h h' => exact words_of_part h h' (by simp [toString])

/-- The question is written with these words, and they are read as the fact. -/
structure Question.Words (text : String) (ws : List (List Char)) (fact : Fact) : Prop where
  text : text.toList.map Char.toLower = unwords ws ++ ['?']
  plain : ∀ word ∈ ws, IsPlain word
  read : ∀ s, Sentence.tidy s = unwords ws → Sentence.question? s = some fact

lemma Question.words_of_opening (k : String) {read : List Char → Option Fact} {ws : List (List Char)}
    {fact : Fact} (hopening : (k, read) ∈ Sentence.openingWords) (hws : ∀ word ∈ ws, IsPlain word)
    (hne : ws ≠ []) (htext : text.toList.map Char.toLower = k.toList ++ ' ' :: (unwords ws ++ ['?']))
    (hread : read (unwords ws) = some fact) : ∃ ws, Question.Words text ws fact := by
  refine ⟨k.toList :: ws, ?_, List.forall_mem_cons.mpr ⟨?_, hws⟩, fun s htidy => ?_⟩
  · rw [htext, unwords_cons _ hne, List.append_assoc, List.cons_append]
  · exact Sentence.plain_reserved k (Sentence.mem_reservedWords_of_opening hopening)
  · exact Sentence.question?_eq htidy hws hne hopening hread

/-- The first word behind the opening is the subject. -/
lemma Question.words_of_single (k : String) {read : List Char → Option Fact}
    (hopening : (k, read) ∈ Sentence.openingWords) (hx : x.IsSingle)
    (htext : text.toList.map Char.toLower =
      k.toList ++ ' ' :: (unwords x.small ++ ' ' :: (unwords y.small ++ ['?'])))
    (hread : ∀ word, Sentence.Free [word] → read (unwords (word :: y.small)) =
      some (Sentence.relate predicate (unwords [word]) (unwords y.small))) :
    ∃ ws, Question.Words text ws (Fact.of x.text predicate y.text) := by
  have hy := y.free_small
  have hfree := x.free_small
  rw [← x.relate_small y]
  obtain ⟨word, hword⟩ := Phrase.small_of_isSingle hx
  rw [hword] at hfree htext ⊢
  refine words_of_opening k hopening
    (List.forall_mem_cons.mpr ⟨hfree.plain word (by simp), hy.plain⟩) (by simp) ?_ (hread word hfree)
  rw [htext, unwords_singleton, unwords_cons word hy.ne_nil, List.append_assoc, List.cons_append]

/-- The phrase behind the opening is cut at a further word. -/
lemma Question.words_of_does {k : String} (hk : k ∈ reservedWords)
    (htext : text.toList.map Char.toLower =
      "does".toList ++ ' ' :: (unwords x.small ++ ' ' :: (k.toList ++ ' ' :: (unwords y.small ++ ['?']))))
    (hread : Sentence.afterDoes? (unwords (x.small ++ k.toList :: y.small)) =
      some (Sentence.relate predicate (unwords x.small) (unwords y.small))) :
    ∃ ws, Question.Words text ws (Fact.of x.text predicate y.text) := by
  have hx := x.free_small
  have hy := y.free_small
  rw [← x.relate_small y]
  refine words_of_opening "does" (by simp [Sentence.openingWords]) (hx.plain_around hy hk) (by simp) ?_ hread
  rw [htext, unwords_append hx.ne_nil (by simp), unwords_cons _ hy.ne_nil]
  simp

lemma Question.words_of_part {first second : String} (h : first ∈ ["", "the "])
    (h' : second ∈ ["", "the "]) (htext : text.toList = "Is ".toList ++ (first.toList ++ (x.text.toList ++
      (" part of ".toList ++ (second.toList ++ (y.text.toList ++ ['?'])))))) :
    ∃ ws, Question.Words text ws (Fact.of x.text "part of" y.text) := by
  have hx := x.free_small
  have hy := y.free_small
  obtain ⟨as, has, harticle⟩ := x.map_toLower_article (show first ∈ ["", "The ", "the "] by grind)
  obtain ⟨bs, hbs, harticle'⟩ := y.map_toLower_article (show second ∈ ["", "The ", "the "] by grind)
  have hplain : ∀ word ∈ as ++ x.small ++ "part".toList :: "of".toList :: (bs ++ y.small), IsPlain word := by
    rw [List.forall_mem_append, List.forall_mem_cons, List.forall_mem_cons]
    exact ⟨hx.plain_article has, Sentence.plain_reserved "part" (by simp [reservedWords]),
      Sentence.plain_reserved "of" (by simp [reservedWords]), hy.plain_article hbs⟩
  rw [← x.relate_small y]
  refine words_of_opening "is" (by simp [Sentence.openingWords]) hplain (by simp) ?_
    (hx.afterIs?_part hy has hbs)
  have hne : as ++ x.small ≠ [] := by simp [hx.ne_nil]
  have hne' : bs ++ y.small ≠ [] := by simp [hy.ne_nil]
  rw [htext, unwords_append hne (by simp), unwords_cons _ (by simp), unwords_cons _ hne', ← harticle,
    ← harticle']
  simp [x.map_toLower_text, y.map_toLower_text]

lemma Question.exists_words (h : Question x y predicate text) :
    ∃ ws, Question.Words text ws (Fact.of x.text predicate y.text) := by
  have hx := x.free_small
  have hy := y.free_small
  have hwritten : x.text.toList.map Char.toLower = unwords x.small ∧
      y.text.toList.map Char.toLower = unwords y.small := ⟨x.map_toLower_text, y.map_toLower_text⟩
  cases h with
  | is hsingle =>
      exact words_of_single "is" (by simp [Sentence.openingWords]) hsingle (by simp [toString, hwritten])
        fun word hword => hword.afterIs?_eq hy
  | are hsingle =>
      exact words_of_single "are" (by simp [Sentence.openingWords]) hsingle (by simp [toString, hwritten])
        fun word hword => hword.subjectFirst? hy "is"
  | has =>
      exact words_of_does (by simp [reservedWords]) (by simp [toString, hwritten]) (hx.afterDoes?_have hy)
  | can hsingle =>
      exact words_of_single "can" (by simp [Sentence.openingWords]) hsingle (by simp [toString, hwritten])
        fun word hword => hword.subjectFirst? hy "can"
  | likes =>
      exact words_of_does (by simp [reservedWords]) (by simp [toString, hwritten]) (hx.afterDoes?_like hy)
  | partOf h h' => exact words_of_part h h' (by simp [toString])

/-- Texts that differ in the case of plain letters only. -/
lemma toLower_eq_toLower_iff {text other : String} :
    other.toLower = text.toLower ↔ other.toList.map Char.toLower = text.toList.map Char.toLower := by
  rw [← String.toList_map, ← String.toList_map, String.toList_inj]
  rfl

lemma eq_period_of_toLower {c : Char} (h : c.toLower = '.') : c = '.' :=
  forall_ascii (P := fun c => c.toLower = '.' → c = '.') (by decide +kernel)
    (toNat_lt_of_toLower (by rw [h]; decide)) h

/-- What is written with the words of a statement teaches its fact. -/
lemma Statement.Words.readAll_eq {ws : List (List Char)} {fact : Fact} (hws : Statement.Words text ws fact)
    {told : String} (htold : told.toLower = text.toLower) : Lesson.readAll told = [.fact fact] := by
  have hsmall := (toLower_eq_toLower_iff.mp htold).trans hws.text
  obtain ⟨body, mark, htext, hbody, hmark⟩ := List.map_eq_append_iff.mp hsmall
  obtain ⟨c, rfl, hc⟩ := List.map_eq_singleton_iff.mp hmark
  obtain rfl := eq_period_of_toLower hc
  have hlower := lower_of_map_toLower hbody (toNat_lt_of_mem_unwords hws.plain)
  have htidy := Sentence.tidy_of_lower_unwords hws.plain List.mem_cons_self (hlower.trans (List.append_nil _).symm)
  rw [Lesson.readAll, htext, Sentence.statements_eq hws.plain hws.ne_nil hbody, List.map_singleton,
    hws.read body htidy]

/-- **A statement teaches its fact**, in whatever letter case it is written. -/
theorem Statement.readAll_eq (h : Statement x y predicate text) {told : String}
    (htold : told.toLower = text.toLower) :
    Lesson.readAll told = [.fact (Fact.of x.text predicate y.text)] := by
  obtain ⟨ws, hws⟩ := h.exists_words
  exact hws.readAll_eq htold

/-- What is written with the words of a question asks about its fact. -/
lemma Question.Words.question?_eq {ws : List (List Char)} {fact : Fact} (hws : Question.Words text ws fact)
    {asked : String} (hasked : asked.toLower = text.toLower) :
    Sentence.question? asked.toList = some fact := by
  have hsmall := (toLower_eq_toLower_iff.mp hasked).trans hws.text
  refine hws.read _ (Sentence.tidy_of_lower_unwords hws.plain (by simp [Sentence.endings])
    (lower_of_map_toLower hsmall ?_))
  intro c hc
  rcases List.mem_append.mp hc with hc | hc
  · exact toNat_lt_of_mem_unwords hws.plain c hc
  · rw [List.mem_singleton.mp hc]
    decide

/-- **A question asks about its fact**, in whatever letter case it is written. -/
theorem Question.question?_eq (h : Question x y predicate text) {asked : String}
    (hasked : asked.toLower = text.toLower) :
    Sentence.question? asked.toList = some (Fact.of x.text predicate y.text) := by
  obtain ⟨ws, hws⟩ := h.exists_words
  exact hws.question?_eq hasked

end PrimeReasoner
