import PrimeReasoner.Proofs.Reading

/-!
# Sentences that state rules

A rule is read by cutting its sentence several times: an implication at "then", its conditions at each "and", and
every piece once more at a verb.  Each cut searches for a fixed phrase, in a text that also holds the phrases of
the other cuts.  They do not get into each other's way, however many conditions there are, as long as the words
that are talked about are none of those which sentences are told by.

**Clauses.**  A `Clause` is a simple sentence: two phrases around a verb.  Its words hold the words of its verb and
no other reserved ones (`Clause.notMem_small`), and they are read as its fact (`Clause.fact?_small`).

**Conditions.**  Clauses joined by "and" come apart into just these clauses (`Clause.mapM_fact?_joined`).

**Rules.**  An implication is read as the facts of its clauses, in order, and a statement about all members of a
category as that statement, in whatever letter case they are written (`rules_read_as_written`).
-/

namespace PrimeReasoner

open Text

/-- The verbs of simple sentences. -/
inductive Verb where
  | is
  | are
  | has
  | can
  | cannot
  | likes
  | teaches
  | isPartOf
deriving DecidableEq, Repr

namespace Verb

/-- The words that the verb is written with. -/
def words : Verb → List String
  | .is => ["is"]
  | .are => ["are"]
  | .has => ["has"]
  | .can => ["can"]
  | .cannot => ["cannot"]
  | .likes => ["likes"]
  | .teaches => ["teaches"]
  | .isPartOf => ["is", "part", "of"]

/-- The verb as it is written. -/
def text (verb : Verb) : String := " ".intercalate verb.words

/-- The predicate that the verb stands for. -/
def predicate : Verb → String
  | .is | .are => "is"
  | .has => "has"
  | .can => "can"
  | .cannot => "cannot"
  | .likes => "likes"
  | .teaches => "teaches"
  | .isPartOf => "part of"

/-- The words of the verb, letter by letter. -/
def small (verb : Verb) : List (List Char) := verb.words.map String.toList

/-- A verb is a connective or the phrase of part and whole. -/
lemma connective_or_part (verb : Verb) :
    (∃ k, verb.small = [k.toList] ∧ (k, verb.predicate) ∈ Sentence.connectiveWords) ∨
      verb.small = ["is".toList, "part".toList, "of".toList] ∧ verb.predicate = "part of" := by
  cases verb with
  | isPartOf => exact .inr ⟨rfl, rfl⟩
  | _ => exact .inl ⟨_, rfl, by simp [predicate, Sentence.connectiveWords]⟩

lemma words_subset (verb : Verb) : verb.words ⊆ reservedWords := by
  cases verb <;> simp [words, reservedWords]

lemma notMem_words (verb : Verb) : ∀ k ∈ ["and", "then", "if", "all"], k ∉ verb.words := by
  cases verb <;> decide

lemma small_ne_nil (verb : Verb) : verb.small ≠ [] := by cases verb <;> simp [small, words]

lemma plain_small (verb : Verb) : ∀ word ∈ verb.small, IsPlain word := by
  intro word hword
  obtain ⟨k, hk, rfl⟩ := List.mem_map.mp hword
  exact Sentence.plain_reserved k (verb.words_subset hk)

lemma map_toLower_text (verb : Verb) : verb.text.toList.map Char.toLower = unwords verb.small := by
  have hsmall : verb.small.map (List.map Char.toLower) = verb.small := by
    rw [small, List.map_map, List.map_inj_left]
    exact fun k hk => Sentence.toLower_reserved k (verb.words_subset hk)
  rw [text, String.toList_intercalate]
  exact (map_toLower_unwords _).trans (congrArg unwords hsmall)

end Verb

/-- A simple sentence: two phrases around a verb. -/
structure Clause where
  subject : Phrase
  verb : Verb
  object : Phrase

namespace Clause

/-- The clause as it is written. -/
def text (clause : Clause) : String :=
  s!"{clause.subject.text} {clause.verb.text} {clause.object.text}"

/-- The fact that the clause denotes. -/
def fact (clause : Clause) : Fact :=
  Fact.of clause.subject.text clause.verb.predicate clause.object.text

/-- The words of the clause in small letters. -/
def small (clause : Clause) : List (List Char) :=
  clause.subject.small ++ (clause.verb.small ++ clause.object.small)

variable (clause : Clause)

lemma small_ne_nil : clause.small ≠ [] := by simp [small, clause.subject.free_small.ne_nil]

lemma plain_small : ∀ word ∈ clause.small, IsPlain word := by
  rw [small, List.forall_mem_append, List.forall_mem_append]
  exact ⟨clause.subject.free_small.plain, clause.verb.plain_small, clause.object.free_small.plain⟩

lemma isWord_small : ∀ word ∈ clause.small, IsWord word :=
  fun word hword => (clause.plain_small word hword).isWord

/-- **A clause has the words of its verb**, and no other reserved ones. -/
lemma notMem_small {k : String} (hk : k ∈ reservedWords) (hverb : k ∉ clause.verb.words) :
    k.toList ∉ clause.small := by
  have hnew : k.toList ∉ clause.verb.small := by
    intro hmem
    obtain ⟨word, hword, heq⟩ := List.mem_map.mp hmem
    exact hverb (String.toList_inj.mp heq ▸ hword)
  rw [small, List.mem_append, List.mem_append]
  simp only [hnew, clause.subject.free_small.notMem k hk, clause.object.free_small.notMem k hk, or_self,
    not_false_eq_true]

lemma map_toLower_text : clause.text.toList.map Char.toLower = unwords clause.small := by
  have hsubject := clause.subject.free_small.ne_nil
  have hobject := clause.object.free_small.ne_nil
  have hverb := clause.verb.small_ne_nil
  have hblank : ' '.toLower = ' ' := by decide
  rw [small, unwords_append hsubject (by simp [hverb]), unwords_append hverb hobject]
  simp [text, toString, Phrase.map_toLower_text, Verb.map_toLower_text, hblank]

lemma tidy_small : Sentence.tidy (unwords clause.small) = unwords clause.small := by
  have hlower : lower clause.text.toList = unwords clause.small :=
    lower_of_map_toLower clause.map_toLower_text (toNat_lt_of_mem_unwords clause.plain_small)
  refine Sentence.tidy_of_lower_unwords clause.plain_small List.mem_cons_self ?_
  rw [List.append_nil, ← hlower, lower_lower]

/-- **A clause is read as its fact.** -/
lemma fact?_small : Sentence.fact? (unwords clause.small) = some clause.fact := by
  have hx := clause.subject.free_small
  have hy := clause.object.free_small
  rw [fact, ← clause.subject.relate_small clause.object]
  rcases clause.verb.connective_or_part with ⟨k, hsmall, hk⟩ | ⟨hsmall, hpredicate⟩
  · refine hx.fact?_connective hy hk (clause.tidy_small.trans ?_)
    rw [small, hsmall, List.singleton_append]
  · rw [hpredicate]
    have hno : [] ∈ Sentence.articles := List.mem_cons_self
    refine hx.fact?_part hy hno hno (clause.tidy_small.trans ?_)
    simp [small, hsmall]

/-! ## Conditions -/

/-- The words of clauses that are joined by "and". -/
def joined (clauses : List Clause) : List (List Char) := ["and".toList].intercalate (clauses.map small)

lemma joined_ne_nil (clause : Clause) (clauses : List Clause) : joined (clause :: clauses) ≠ [] := by
  rw [joined, List.map_cons]
  exact intercalate_ne_nil clause.small_ne_nil _

lemma mem_joined {clauses : List Clause} {word : List Char} (h : word ∈ joined clauses) :
    word = "and".toList ∨ ∃ clause ∈ clauses, word ∈ clause.small := by
  rcases mem_of_mem_intercalate h with h | ⟨piece, hpiece, h⟩
  · exact .inl (List.mem_singleton.mp h)
  · obtain ⟨clause, hclause, rfl⟩ := List.mem_map.mp hpiece
    exact .inr ⟨clause, hclause, h⟩

lemma plain_joined (clauses : List Clause) : ∀ word ∈ joined clauses, IsPlain word := by
  intro word hword
  rcases mem_joined hword with rfl | ⟨clause, -, hword⟩
  · exact Sentence.plain_reserved "and" (by simp [reservedWords])
  · exact clause.plain_small word hword

lemma then_notMem_joined (clauses : List Clause) : "then".toList ∉ joined clauses := by
  intro hthen
  rcases mem_joined hthen with hand | ⟨clause, -, hword⟩
  · exact absurd (String.toList_inj.mp hand) (by decide)
  · exact clause.notMem_small (by simp [reservedWords]) (clause.verb.notMem_words "then" (by simp)) hword

lemma map_toLower_joined (clauses : List Clause) :
    (" and ".intercalate (clauses.map text)).toList.map Char.toLower = unwords (joined clauses) := by
  rw [String.toList_intercalate, List.map_map]
  induction clauses with
  | nil => rfl
  | cons clause clauses ih =>
      cases clauses with
      | nil => simp [joined, map_toLower_text]
      | cons next clauses =>
          have hand : " and ".toList.map Char.toLower = spaced ["and".toList] := by decide
          have hwords : joined (clause :: next :: clauses) =
              clause.small ++ (["and".toList] ++ joined (next :: clauses)) := by
            simp [joined, List.intercalate_cons_cons]
          rw [hwords, unwords_append_spaced clause.small_ne_nil (by simp) (joined_ne_nil next clauses), ← ih,
            ← clause.map_toLower_text, ← hand]
          simp [List.intercalate_cons_cons]

/-- **Joined clauses come apart** into just these clauses, each of which is read as its fact. -/
lemma mapM_fact?_joined (clause : Clause) (clauses : List Clause) :
    (splitAll " and ".toList (unwords (joined (clause :: clauses)))).mapM Sentence.fact? =
      some (clause.fact :: clauses.map fact) := by
  have hphrase : " and ".toList = spaced ["and".toList] := by decide
  have hand : "and" ∈ reservedWords := by simp [reservedWords]
  have hpieces : ∀ piece ∈ (clause :: clauses).map small,
      piece ≠ [] ∧ (∀ word ∈ piece, IsWord word) ∧ "and".toList ∉ piece := by
    intro piece hpiece
    obtain ⟨other, -, rfl⟩ := List.mem_map.mp hpiece
    exact ⟨other.small_ne_nil, other.isWord_small,
      other.notMem_small hand (other.verb.notMem_words "and" (by simp))⟩
  rw [hphrase, joined, splitAll_unwords (Sentence.isWord_reserved hand) (by simp) hpieces, List.map_map,
    List.mapM_map]
  simp only [Function.comp_def, fact?_small]
  exact List.mapM_pure

end Clause

/-! ## Implications -/

/-- The sentence that states an implication, with what stands before "then" and at the end. -/
def ifSentence (conditions : List Clause) (conclusion : Clause) (comma mark : String) : String :=
  let joined := " and ".intercalate (conditions.map Clause.text)
  s!"If {joined}{comma} then {conclusion.text}{mark}"

namespace Sentence

/-- **An implication is cut at its "then"**, with or without a comma. -/
lemma cutOnce_thenPhrase {xs ys : List (List Char)} {comma : String} (hcomma : comma ∈ ["", ","])
    (hxs : ∀ word ∈ xs, IsPlain word) (hxs' : xs ≠ []) (hys : ∀ word ∈ ys, IsPlain word) (hys' : ys ≠ [])
    (hthen : "then".toList ∉ xs) (hthen' : "then".toList ∉ ys) :
    let rest := unwords xs ++ (comma.toList ++ " then ".toList ++ unwords ys)
    Text.cutOnce (thenPhrase rest) rest = some (unwords xs, unwords ys) := by
  intro rest
  have hwords : ∀ word ∈ xs, IsWord word := fun word hword => (hxs word hword).isWord
  have hwords' : ∀ word ∈ ys, IsWord word := fun word hword => (hys word hword).isWord
  have hphrase : " then ".toList = spaced ["then".toList] := by decide
  have hnone : ∀ ws, (∀ word ∈ ws, IsPlain word) → ',' ∉ unwords ws := by
    intro ws hws hmem
    exact absurd (mem_unwords_plain hws hmem) (by decide)
  simp only [List.mem_cons, List.not_mem_nil, or_false] at hcomma
  rcases hcomma with rfl | rfl
  · have hrest : rest = unwords (xs ++ (["then".toList] ++ ys)) := by
      rw [unwords_append_spaced hxs' (by simp) hys', ← hphrase]
      rfl
    have hplain : ∀ word ∈ xs ++ (["then".toList] ++ ys), IsPlain word := by
      rw [List.forall_mem_append, List.forall_mem_append, List.forall_mem_singleton]
      exact ⟨hxs, plain_reserved "then" (by simp [reservedWords]), hys⟩
    have hnocomma : occursIn ", then ".toList rest = false := by
      rw [Bool.eq_false_iff]
      intro hoccurs
      rw [hrest] at hoccurs
      exact hnone _ hplain ((occursIn_iff.mp hoccurs).subset (by decide))
    rw [thenPhrase, hnocomma, hphrase, hrest]
    exact cutOnce_unwords (isWord_reserved (by simp [reservedWords])) (List.forall_mem_nil _) hwords hxs' hwords'
      hys' hthen hthen'
  · have hrest : rest = unwords xs ++ (", then ".toList ++ unwords ys) := rfl
    have hcut : Text.cutOnce ", then ".toList rest = some (unwords xs, unwords ys) := by
      refine cutOnce_of_notMem (hnone xs hxs) ?_ ⟨trimmed_unwords hwords, trimmed_unwords hwords'⟩
        ⟨unwords_ne_nil hwords hxs', unwords_ne_nil hwords' hys'⟩
      rw [List.mem_append, not_or]
      exact ⟨by decide, hnone ys hys⟩
    rw [thenPhrase, occursIn_of_cutOnce hcut]
    exact hcut

lemma quantified?_if (rest : List Char) : quantified? ("if ".toList ++ rest) = none := by
  simp [quantified?, after?]

end Sentence

namespace Clause

/-- **An implication in small letters** is read as the facts of its clauses. -/
lemma implication?_eq (first : Clause) (further : List Clause) (conclusion : Clause) {comma : String}
    (hcomma : comma ∈ ["", ","]) :
    Sentence.implication? ("if ".toList ++ (unwords (joined (first :: further)) ++
        (comma.toList ++ " then ".toList ++ unwords conclusion.small))) =
      some (.standard first.fact (further.map fact) conclusion.fact) := by
  have hafter : ∀ rest, after? "if ".toList ("if ".toList ++ rest) = some rest := by simp [after?]
  have hcut := Sentence.cutOnce_thenPhrase hcomma (plain_joined _) (joined_ne_nil first further)
    conclusion.plain_small conclusion.small_ne_nil (then_notMem_joined _)
    (conclusion.notMem_small (by simp [reservedWords]) (conclusion.verb.notMem_words "then" (by simp)))
  rw [Sentence.implication?, hafter]
  dsimp only
  rw [hcut]
  dsimp only
  rw [mapM_fact?_joined, conclusion.fact?_small]
  rfl

/-- **An implication as it is written** is tidied to its words in small letters. -/
lemma tidy_ifSentence (first : Clause) (further : List Clause) (conclusion : Clause) {comma mark told : String}
    (hcomma : comma ∈ ["", ","]) (hmark : mark ∈ ["", "."])
    (htold : told.toLower = (ifSentence (first :: further) conclusion comma mark).toLower) :
    Sentence.tidy told.toList = "if ".toList ++ (unwords (joined (first :: further)) ++
      (comma.toList ++ " then ".toList ++ unwords conclusion.small)) := by
  set body := "if ".toList ++ (unwords (joined (first :: further)) ++
    (comma.toList ++ " then ".toList ++ unwords conclusion.small)) with hbody
  have hsmall : told.toList.map Char.toLower = body ++ mark.toList := by
    have hliteral : ∀ literal ∈ ["", ",", ".", " then "],
        literal.toList.map Char.toLower = literal.toList := by decide
    have hif : "If ".toList.map Char.toLower = "if ".toList := by decide
    have hthen := hliteral " then " (by simp)
    have hcomma' := hliteral comma (by grind)
    have hmark' := hliteral mark (by grind)
    rw [toLower_eq_toLower_iff.mp htold, hbody, ← map_toLower_joined, ← map_toLower_text, ← hif, ← hthen,
      ← hcomma', ← hmark']
    simp [ifSentence, toString]
  have hascii : ∀ c ∈ body ++ mark.toList, c.toNat < 128 := by
    have hliteral : ∀ literal ∈ ["", ",", ".", "if ", " then "], ∀ c ∈ literal.toList, c.toNat < 128 := by simp
    simp only [hbody, List.forall_mem_append]
    exact ⟨⟨hliteral "if " (by simp), toNat_lt_of_mem_unwords (plain_joined _),
      ⟨hliteral comma (by grind), hliteral " then " (by simp)⟩,
      toNat_lt_of_mem_unwords conclusion.plain_small⟩, hliteral mark (by grind)⟩
  -- the last character is that of the conclusion
  have hlast : body.getLast? = (unwords conclusion.small).getLast? := by
    have hne := unwords_ne_nil conclusion.isWord_small conclusion.small_ne_nil
    obtain ⟨before, last, hlast⟩ := List.eq_nil_or_concat' (unwords conclusion.small) |>.resolve_left hne
    simp only [hbody, hlast, ← List.append_assoc, List.getLast?_concat]
  have htrimmed : Trimmed body := by
    refine ⟨fun c hc => ?_, hlast ▸ (trimmed_unwords conclusion.isWord_small).2⟩
    obtain rfl : 'i' = c := by simpa [hbody] using hc
    decide
  have hending : mark.toList ∈ Sentence.endings := by
    have hall : ∀ mark ∈ ["", "."], mark.toList ∈ Sentence.endings := by decide
    exact hall mark hmark
  exact Sentence.tidy_of_lower_append htrimmed hending (hlast ▸ Sentence.last_unwords conclusion.plain_small)
    (lower_of_map_toLower hsmall hascii)

end Clause

/-! ## Statements about all members of a category -/

namespace Sentence

variable (quantifier : Quantifier) (x y : Phrase)

/-- The words of a statement about all members of a category, in small letters. -/
def allWords : List (List Char) := "all".toList :: (x.small ++ quantifier.verb.toList :: y.small)

lemma plain_allWords : ∀ word ∈ allWords quantifier x y, IsPlain word := by
  have hverb : quantifier.verb ∈ reservedWords := by cases quantifier <;> simp [Quantifier.verb, reservedWords]
  exact List.forall_mem_cons.mpr
    ⟨plain_reserved "all" (by simp [reservedWords]), x.free_small.plain_around y.free_small hverb⟩

/-- **A statement about all members** is cut at its verb. -/
lemma quantified?_allWords :
    quantified? (unwords (allWords quantifier x y)) = some (Rule.all quantifier x.text y.text) := by
  have hx := x.free_small
  have hy := y.free_small
  have hall : "all ".toList = "all".toList ++ [' '] := by decide
  have hare : " are ".toList = spaced ["are".toList] := by decide
  have hcan : " can ".toList = spaced ["can".toList] := by decide
  have hnames : Rule.all quantifier (String.ofList (unwords x.small)) (String.ofList (unwords y.small)) =
      Rule.all quantifier x.text y.text := by
    rw [Rule.all, Rule.all, x.normalize_small, y.normalize_small]
  rw [quantified?, allWords, hall, after?_unwords (by simp)]
  cases quantifier with
  | universal =>
      simp only [Quantifier.verb]
      rw [hare, hx.cutOnce hy (by simp [reservedWords])]
      exact congrArg some hnames
  | capability =>
      simp only [Quantifier.verb]
      rw [hare, hx.cutOnce_other hy (by simp [reservedWords]) (by simp [reservedWords]) (by decide) (by simp),
        hcan, hx.cutOnce hy (by simp [reservedWords])]
      exact congrArg some hnames

/-- **A statement about all members as it is written** is tidied to its words in small letters. -/
lemma tidy_all {mark told : String} (hmark : mark ∈ ["", "."])
    (htold : told.toLower = s!"All {x.text} {quantifier.verb} {y.text}{mark}".toLower) :
    tidy told.toList = unwords (allWords quantifier x y) := by
  have hplain := plain_allWords quantifier x y
  have hmark' : mark.toList.map Char.toLower = mark.toList ∧ mark.toList ∈ endings ∧
      ∀ c ∈ mark.toList, c.toNat < 128 := by
    have hall : ∀ mark ∈ ["", "."], mark.toList.map Char.toLower = mark.toList ∧ mark.toList ∈ endings ∧
        ∀ c ∈ mark.toList, c.toNat < 128 := by simp [endings]
    exact hall mark hmark
  have hsmall : told.toList.map Char.toLower = unwords (allWords quantifier x y) ++ mark.toList := by
    have hverb : quantifier.verb.toList.map Char.toLower = quantifier.verb.toList := by
      cases quantifier <;> decide
    have hblank : ' '.toLower = ' ' := by decide
    rw [toLower_eq_toLower_iff.mp htold, allWords, unwords_cons _ (by simp),
      unwords_append x.free_small.ne_nil (by simp), unwords_cons _ y.free_small.ne_nil, ← x.map_toLower_text,
      ← y.map_toLower_text]
    simp [toString, hmark', hverb, hblank]
  refine tidy_of_lower_unwords hplain hmark'.2.1 (lower_of_map_toLower hsmall ?_)
  exact List.forall_mem_append.mpr ⟨toNat_lt_of_mem_unwords hplain, hmark'.2.2⟩

end Sentence

/-- **Rules are read as they are written**: an implication as its clauses, in order, and a statement about all
members of a category as that statement. -/
theorem rules_read_as_written :
    (∀ (first : Clause) (further : List Clause) (conclusion : Clause) (comma mark told : String),
      comma ∈ ["", ","] → mark ∈ ["", "."] →
      told.toLower = (ifSentence (first :: further) conclusion comma mark).toLower →
      Sentence.rule? told.toList =
        some (.standard first.fact (further.map Clause.fact) conclusion.fact)) ∧
    ∀ (quantifier : Quantifier) (x y : Phrase) (mark told : String), mark ∈ ["", "."] →
      told.toLower = s!"All {x.text} {quantifier.verb} {y.text}{mark}".toLower →
      Sentence.rule? told.toList = some (Rule.all quantifier x.text y.text) := by
  refine ⟨fun first further conclusion comma mark told hcomma hmark htold => ?_,
    fun quantifier x y mark told hmark htold => ?_⟩
  · rw [Sentence.rule?, Clause.tidy_ifSentence first further conclusion hcomma hmark htold,
      Sentence.quantified?_if]
    exact Clause.implication?_eq first further conclusion hcomma
  · rw [Sentence.rule?, Sentence.tidy_all quantifier x y hmark htold, Sentence.quantified?_allWords]

/-- A phrase of one word. -/
def alice : Phrase := ⟨["Alice"], by simp, by decide, by decide +kernel⟩

/-- A phrase of two words. -/
def frontRow : Phrase := ⟨["front", "row"], by simp, by decide, by decide +kernel⟩

theorem read_with_two_conditions :
    Sentence.rule? "IF Alice is Part of front row AND Front Row likes alice, then alice cannot front row.".toList =
        some (.standard ⟨"alice", "part of", "front row"⟩ [⟨"front row", "likes", "alice"⟩]
          ⟨"alice", "cannot", "front row"⟩) ∧
      Sentence.rule? "all Front Row CAN alice".toList =
        some (.quantified .capability "front row" "alice") := by
  have himplication := rules_read_as_written.1 ⟨alice, .isPartOf, frontRow⟩ [⟨frontRow, .likes, alice⟩]
    ⟨alice, .cannot, frontRow⟩ "," "."
    "IF Alice is Part of front row AND Front Row likes alice, then alice cannot front row." (by simp) (by simp)
    (toLower_eq_toLower_iff.mpr (by decide +kernel))
  have hall := rules_read_as_written.2 .capability frontRow alice "" "all Front Row CAN alice" (by simp)
    (toLower_eq_toLower_iff.mpr (by decide +kernel))
  exact ⟨himplication.trans (by decide +kernel), hall.trans (by decide +kernel)⟩

end PrimeReasoner
