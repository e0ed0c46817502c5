import PrimeReasoner.Proofs.AskingBack
import PrimeReasoner.Proofs.Silence

/-!
# Articles in statements and in questions

"X is a Y" and "Is X a Y?" look as if they belonged together.  But the article is a part of the object in the statement
(`Statement.words_of_article`), while the question is cut at it and asks about the object without the article
(`Question.words_of_article`).  So the statement stores another fact than the one that the question is about.

The question is answered with yes if the session was taught that X is Y, without an article.  If it was taught nothing
else about Y, the answer is no, whatever it was taught otherwise.  There is one exception: if X and Y are the same
phrase, the stored fact is a link back to the same three concepts, whose number is stored
(`answered_despite_article`).
-/

namespace PrimeReasoner

open Text

namespace Sentence

variable {xs ys : List (List Char)} {k : String}

/-- The articles that tell one of several. -/
def indefinite : List String := ["a", "an"]

lemma mem_reservedWords_of_indefinite (hk : k ∈ indefinite) : k ∈ reservedWords := by
  simp only [indefinite, List.mem_cons, List.not_mem_nil, or_false] at hk
  rcases hk with rfl | rfl <;> simp [reservedWords]

lemma Free.notMem_indefinite (hy : Free ys) (hk : k ∈ indefinite) {other : String} (hother : other ∈ reservedWords)
    (hne : other ∉ indefinite) : other.toList ∉ k.toList :: ys := by
  rw [List.mem_cons, not_or, String.toList_inj]
  refine ⟨?_, hy.notMem other hother⟩
  rintro rfl
  exact hne hk

/-- A statement is cut at "is", whatever words come behind it, unless there is another "is" or a "part" among
them. -/
lemma Free.fact?_is (hx : Free xs) (hys : ∀ word ∈ ys, IsWord word) (hne : ys ≠ []) (hpart : "part".toList ∉ ys)
    (his : "is".toList ∉ ys) {s : List Char} (htidy : tidy s = unwords (xs ++ ("is".toList :: ys))) :
    fact? s = some (relate "is" (unwords xs) (unwords ys)) := by
  have hreserved : "is" ∈ reservedWords ∧ "part" ∈ reservedWords := by simp [reservedWords]
  have hphrase : " is ".toList = spaced ["is".toList] := by decide
  have hwords : ∀ word ∈ xs ++ "is".toList :: ys, IsWord word := by
    rw [List.forall_mem_append, List.forall_mem_cons]
    exact ⟨hx.isWord, isWord_reserved hreserved.1, hys⟩
  have hnone : "part".toList ∉ xs ++ "is".toList :: ys := by
    rw [List.mem_append, List.mem_cons, String.toList_inj]
    simp only [hx.notMem "part" hreserved.2, hpart, show ¬ "part" = "is" by decide, or_self, not_false_eq_true]
  have hcut : Text.cutOnce " is ".toList (unwords (xs ++ "is".toList :: ys)) = some (unwords xs, unwords ys) := by
    rw [hphrase]
    exact cutOnce_unwords (isWord_reserved hreserved.1) (List.forall_mem_nil _) hx.isWord hx.ne_nil hys hne
      (hx.notMem "is" hreserved.1) his
  rw [fact?, htidy, partFact?, partPhrase_eq,
    cutOnce_unwords_of_notMem (isWord_reserved hreserved.2) isWord_of hwords (by simp) hnone]
  dsimp only
  rw [connectives, List.findSome?_cons, Connective.read?, hcut]
  rfl

/-- **A statement keeps the article**, as part of the object. -/
lemma Free.fact?_article (hx : Free xs) (hy : Free ys) (hk : k ∈ indefinite) {s : List Char}
    (htidy : tidy s = unwords (xs ++ "is".toList :: k.toList :: ys)) :
    fact? s = some (relate "is" (unwords xs) (unwords (k.toList :: ys))) :=
  hx.fact?_is (List.forall_mem_cons.mpr ⟨isWord_reserved (mem_reservedWords_of_indefinite hk), hy.isWord⟩)
    (List.cons_ne_nil _ _) (hy.notMem_indefinite hk (by simp [reservedWords]) (by simp [indefinite]))
    (hy.notMem_indefinite hk (by simp [reservedWords]) (by simp [indefinite])) htidy

/-- **A question drops the article**, as it is cut there. -/
lemma Free.afterIs?_article (hx : Free xs) (hy : Free ys) (hk : k ∈ indefinite) :
    afterIs? (unwords (xs ++ k.toList :: ys)) = some (relate "is" (unwords xs) (unwords ys)) := by
  have hk' := mem_reservedWords_of_indefinite hk
  have hcut := hx.cutOnce hy hk'
  have hwords : ∀ word ∈ xs ++ k.toList :: ys, IsWord word :=
    fun word hword => (hx.plain_around hy hk' word hword).isWord
  have hoccurs : ∀ other ∈ reservedWords, other ≠ k → ∀ ks, (∀ word ∈ ks, IsWord word) →
      occursIn (spaced (other.toList :: ks)) (unwords (xs ++ k.toList :: ys)) = false := by
    intro other hother hne ks hks
    refine occursIn_unwords_of_notMem (isWord_reserved hother) hks hwords (by simp) ?_
    rw [List.mem_append, List.mem_cons, String.toList_inj]
    simp only [hne, hx.notMem other hother, hy.notMem other hother, or_self, not_false_eq_true]
  have ha : " a ".toList = spaced ["a".toList] := by decide
  have han : " an ".toList = spaced ["an".toList] := by decide
  rw [afterIs?, partPhrase_eq, ha, han]
  simp only [indefinite, List.mem_cons, List.not_mem_nil, or_false] at hk
  rcases hk with rfl | rfl
  · rw [hoccurs "part" (by simp [reservedWords]) (by decide) _ isWord_of, occursIn_of_cutOnce hcut, hcut]
    rfl
  · rw [hoccurs "part" (by simp [reservedWords]) (by decide) _ isWord_of,
      hoccurs "a" (by simp [reservedWords]) (by decide) [] (by simp), occursIn_of_cutOnce hcut, hcut]
    rfl

end Sentence

/-! ## Statements and questions with an article -/

section Reading

variable {x y : Phrase} {article : String}

/-- The phrase behind an article is a concept of its own. -/
lemma Phrase.normalize_article (hk : article ∈ Sentence.indefinite) (y : Phrase) :
    normalize s!"{article} {y.text}" = String.ofList (unwords (article.toList :: y.small)) := by
  have hreserved := Sentence.mem_reservedWords_of_indefinite hk
  have htext : s!"{article} {y.text}" = " ".intercalate (article :: y.words) := by
    rw [← String.toList_inj, String.intercalate_cons_of_ne_nil y.ne_nil]
    simp [text, toString]
  rw [htext, normalize_words (List.forall_mem_cons.mpr ⟨Sentence.plain_reserved article hreserved, y.plain⟩),
    List.map_cons, Sentence.toLower_reserved article hreserved, small]

lemma Statement.words_of_article (hk : article ∈ Sentence.indefinite) (x y : Phrase) :
    Statement.Words s!"{x.text} is {article} {y.text}." (x.small ++ "is".toList :: article.toList :: y.small)
      (Fact.of x.text "is" s!"{article} {y.text}") := by
  have hx := x.free_small
  have hy := y.free_small
  have hreserved := Sentence.mem_reservedWords_of_indefinite hk
  have hplain : ∀ word ∈ x.small ++ "is".toList :: article.toList :: y.small, IsPlain word := by
    rw [List.forall_mem_append, List.forall_mem_cons, List.forall_mem_cons]
    exact ⟨hx.plain, Sentence.plain_reserved "is" (by simp [reservedWords]),
      Sentence.plain_reserved article hreserved, hy.plain⟩
  refine ⟨?_, hplain, by simp, fun s htidy => ?_⟩
  · have hmarks : ' '.toLower = ' ' ∧ '.'.toLower = '.' := by decide
    rw [unwords_append hx.ne_nil (by simp), unwords_cons _ (by simp), unwords_cons _ hy.ne_nil]
    simp [toString, x.map_toLower_text, y.map_toLower_text, Sentence.toLower_reserved article hreserved, hmarks]
  · have hrelate : Sentence.relate "is" (unwords x.small) (unwords (article.toList :: y.small)) =
        Fact.of x.text "is" s!"{article} {y.text}" := by
      rw [Sentence.relate, Fact.of, Fact.of, x.normalize_small, ← Phrase.normalize_article hk, normalize_normalize]
    rw [← hrelate]
    exact Sentence.read_eq_fact hplain (by simp) (hx.head?_append_ne (by simp [reservedWords]))
      (hx.head?_append_ne (by simp [reservedWords])) htidy (hx.fact?_article hy hk htidy)

lemma Question.words_of_article (hk : article ∈ Sentence.indefinite) (x y : Phrase) :
    ∃ ws, Question.Words s!"Is {x.text} {article} {y.text}?" ws (Fact.of x.text "is" y.text) := by
  have hx := x.free_small
  have hy := y.free_small
  have hreserved := Sentence.mem_reservedWords_of_indefinite hk
  rw [← x.relate_small y]
  refine words_of_opening "is" (by simp [Sentence.openingWords]) (hx.plain_around hy hreserved) (by simp) ?_
    (hx.afterIs?_article hy hk)
  rw [unwords_append hx.ne_nil (by simp), unwords_cons _ hy.ne_nil]
  simp [toString, x.map_toLower_text, y.map_toLower_text, Sentence.toLower_reserved article hreserved]

end Reading

/-! ## Asking back -/

/-- A stored fact is held under its number. -/
lemma Store.Sound.holds_of_mem {store : Store} (h : store.Sound)
    (hnumbered : store.knowledge.Numbered store.encoder) {fact : Fact} (hfact : fact ∈ store.knowledge.facts) :
    store.Holds fact := by
  have hknows := h.fits.facts fact hfact
  exact ⟨hknows, (h.fits.holds_code_iff hnumbered h.encoder hknows).mpr ⟨fact, hfact, .refl _⟩⟩

/-- The object with an article, the one without it, and the word between them are different concepts. -/
lemma Phrase.article_ne {article : String} (harticle : article ∈ Sentence.indefinite) (y : Phrase) :
    normalize s!"{article} {y.text}" ≠ normalize y.text ∧
      normalize s!"{article} {y.text}" ≠ "is" ∧ normalize y.text ≠ "is" := by
  have hy := y.free_small
  have his : "is" = String.ofList (unwords ["is".toList]) := by simp
  have hreserved := Sentence.mem_reservedWords_of_indefinite harticle
  have hword : ∀ word ∈ ["is".toList], IsWord word :=
    List.forall_mem_singleton.mpr (Sentence.isWord_reserved (by simp [reservedWords]))
  have hwords : ∀ word ∈ article.toList :: y.small, IsWord word :=
    List.forall_mem_cons.mpr ⟨Sentence.isWord_reserved hreserved, hy.isWord⟩
  -- texts of words are told apart by their words
  have htell : ∀ ws ws' : List (List Char), (∀ word ∈ ws, IsWord word) → (∀ word ∈ ws', IsWord word) → ws ≠ [] →
      ws' ≠ [] → ws ≠ ws' → String.ofList (unwords ws) ≠ String.ofList (unwords ws') := by
    intro ws ws' hws hws' hne hne' hdiffer heq
    rw [String.ofList_inj] at heq
    exact hdiffer ((words_unwords hws hne).symm.trans (heq ▸ words_unwords hws' hne'))
  rw [Phrase.normalize_article harticle, y.normalize_text, his]
  refine ⟨htell _ _ hwords hy.isWord (by simp) hy.ne_nil ?_, htell _ _ hwords hword (by simp) (by simp) ?_,
    htell _ _ hy.isWord hword hy.ne_nil (by simp) ?_⟩
  · simp
  · simp [hy.ne_nil]
  · intro heq
    exact hy.notMem "is" (by simp [reservedWords]) (by simp [heq])

/-- **Articles are kept in statements and dropped in questions.**  In a session whose depth limit is not below zero,
after any turns, "X is a Y." teaches that X is "a Y", and "Is X a Y?" asks whether X is "Y", with either article in
each, in whatever letter case they are written.  The answer is yes if the session was taught that X is Y.  If it was
taught nothing else about Y since its last fresh start, neither a fact nor the conclusion of a rule, then the answer is
yes exactly if X and Y are the same phrase and the limit is not zero. -/
theorem answered_despite_article {machine : Machine} {config : Config} {start : Session} {limit : Int}
    (hsession : Session.ofConfig machine config = .ok start)
    (hlimit : ({ machine, maxDepth := config.maxDepth } : Engine).depthBound = .ok limit) (hdepth : 0 ≤ limit)
    (earlier : List Session.Turn) {x y : Phrase} {article another told asked : String}
    (harticle : article ∈ Sentence.indefinite) (hanother : another ∈ Sentence.indefinite)
    (htold : told.toLower = s!"{x.text} is {article} {y.text}.".toLower)
    (hasked : asked.toLower = s!"Is {x.text} {another} {y.text}?".toLower) :
    let session := start.takeAll earlier
    let lessons := earlier.foldl Session.lessonsAfter []
    let goal := Fact.of x.text "is" y.text
    (session.learn told).1 = .ok [.fact (Fact.of x.text "is" s!"{article} {y.text}")] ∧
    Sentence.question? asked.toList = some goal ∧
    ∃ answer, ((session.learn told).2.ask asked).1 = .ok answer ∧
      (.fact goal ∈ lessons → answer.reply = .yes) ∧
      ((∀ lesson ∈ lessons, lesson.IsSilent (normalize y.text)) →
        (answer.reply = .yes ↔ normalize x.text = normalize y.text ∧ 1 ≤ limit)) := by
  intro session lessons goal
  have hstart := Session.sound_of_depthBound hsession hlimit
  have h : session.Sound limit := hstart.takeAll earlier
  have hread : Lesson.readAll told = [.fact (Fact.of x.text "is" s!"{article} {y.text}")] :=
    (Statement.words_of_article harticle x y).readAll_eq htold
  obtain ⟨ws, hws⟩ := Question.words_of_article hanother x y
  have hgoal : Sentence.question? asked.toList = some goal := hws.question?_eq hasked
  obtain ⟨hresult, hlearned, -⟩ := h.learn told
  -- what the session knows comes from its lessons, and its numbers are up to date
  have hfresh : start.Records [] ∧ start.store.knowledge.Numbered start.store.encoder := by
    obtain ⟨bound, rfl⟩ := Session.eq_start_of_ofConfig hsession
    exact ⟨Store.records_fresh bound [], rfl⟩
  have hrecords := (hstart.records_takeAll hfresh.1 earlier).learn h told
  have hnumbered := Session.numbered_take h.store (Session.numbered_takeAll hstart.store hfresh.2 earlier) (.learn told)
  rw [Session.take] at hnumbered
  have his : normalize "is" = "is" := by decide +kernel
  have hfact : ∀ object, Fact.of x.text "is" object = ⟨normalize x.text, "is", normalize object⟩ :=
    fun object => by rw [Fact.of, his]
  obtain ⟨answer, hanswer⟩ := (hlearned.ask asked).1
  refine ⟨hresult.trans (by rw [hread]), hgoal, answer, hanswer, fun htaught => ?_, fun hsilent => ?_⟩
  · have hmem : goal ∈ (session.learn told).2.store.knowledge.facts := by
      rw [hrecords.facts]
      exact List.mem_filterMap.mpr ⟨.fact goal, List.mem_append_left _ htaught, rfl⟩
    have hholds := hlearned.store.holds_of_mem hnumbered hmem
    obtain rfl := Except.ok.inj (hanswer.symm.trans (hlearned.ask_of_holds hdepth hgoal hholds))
    rfl
  · obtain ⟨hne, hlink, hconcept⟩ := y.article_ne harticle
    rw [hread, hfact] at hrecords
    obtain ⟨answer', hanswer', hiff⟩ := hlearned.yes_iff_of_silent hdepth hnumbered hrecords hsilent
      (hgoal.trans (congrArg some (hfact y.text))) (normalize_normalize _) (normalize_normalize _)
      (normalize_normalize _) hne ⟨hlink, hconcept⟩
    obtain rfl := Except.ok.inj (hanswer.symm.trans hanswer')
    exact hiff

/-- A phrase of one word. -/
def socrates : Phrase := ⟨["Socrates"], by simp, by decide, by decide +kernel⟩

/-- A phrase of one word. -/
def man : Phrase := ⟨["man"], by simp, by decide, by decide +kernel⟩

theorem answered_after_plain_statement_only :
    (∃ answer, ((((Session.start .usual {} 1000).takeAll [.learn "Socrates is wise."]).learn
      "Socrates IS a man.").2.ask "is socrates an Man?").1 = .ok answer ∧ answer.reply ≠ .yes) ∧
    ∃ answer, ((((Session.start .usual {} 1000).takeAll [.reset, .learn "Socrates is man."]).learn
      "Socrates IS a man.").2.ask "is socrates an Man?").1 = .ok answer ∧ answer.reply = .yes := by
  have hsession : Session.ofConfig .usual {} = .ok (Session.start .usual {} 1000) := rfl
  have hlimit : ({ machine := .usual, maxDepth := .null } : Engine).depthBound = .ok 400 := rfl
  have ha : "a" ∈ Sentence.indefinite := by simp [Sentence.indefinite]
  have han : "an" ∈ Sentence.indefinite := by simp [Sentence.indefinite]
  have htold : ∀ article, article = "a" →
      "Socrates IS a man.".toLower = s!"{socrates.text} is {article} {man.text}.".toLower := by
    rintro _ rfl
    exact toLower_eq_toLower_iff.mpr (by decide +kernel)
  have hasked : ∀ article, article = "an" →
      "is socrates an Man?".toLower = s!"Is {socrates.text} {article} {man.text}?".toLower := by
    rintro _ rfl
    exact toLower_eq_toLower_iff.mpr (by decide +kernel)
  constructor
  · have hlessons : [Session.Turn.learn "Socrates is wise."].foldl Session.lessonsAfter [] =
        [.fact ⟨"socrates", "is", "wise"⟩] := by decide +kernel
    have hwise : Lesson.IsSilent (normalize man.text) (.fact ⟨"socrates", "is", "wise"⟩) := by
      intro claim hclaim
      obtain rfl := Option.some.inj hclaim
      decide +kernel
    obtain ⟨-, -, answer, hanswer, -, hsilent⟩ := answered_despite_article hsession hlimit (by decide)
      [.learn "Socrates is wise."] ha han (htold "a" rfl) (hasked "an" rfl)
    rw [hlessons, List.forall_mem_singleton] at hsilent
    have hdiffer : normalize socrates.text ≠ normalize man.text := by decide +kernel
    exact ⟨answer, hanswer, fun hyes => hdiffer ((hsilent hwise).mp hyes).1⟩
  · have hlessons : .fact (Fact.of socrates.text "is" man.text) ∈
        [Session.Turn.reset, .learn "Socrates is man."].foldl Session.lessonsAfter [] := by decide +kernel
    obtain ⟨-, -, answer, hanswer, htaught, -⟩ := answered_despite_article hsession hlimit (by decide)
      [.reset, .learn "Socrates is man."] ha han (htold "a" rfl) (hasked "an" rfl)
    exact ⟨answer, hanswer, htaught hlessons⟩

/-- **A statement with an article does not answer the question with the same article.** -/
theorem no_after_statement_with_article :
    let session := Session.start .usual { sieveLimit := .int 0 } 0
    Session.ofConfig .usual { sieveLimit := .int 0 } = .ok session ∧
    (session.learn "Socrates is a man.").1.map (List.map Lesson.line) = .ok ["Added fact: socrates is a man"] ∧
    ((session.learn "Socrates is a man.").2.ask "Is Socrates a man?").1.map
      (fun answer => (answer.goalText, answer.reply)) = .ok (some "socrates is man", .no) := by
  refine ⟨rfl, ?_⟩
  decide +kernel

end PrimeReasoner
