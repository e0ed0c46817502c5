import PrimeReasoner.Proofs.Pieces
import PrimeReasoner.Proofs.Session

/-!
# Texts one after the other

Two texts with a mark between them teach what the first one teaches and then what the second one teaches
(`Lesson.readAll_append_mark`), and so a session that learns them at once ends up as if it had learned them one after
the other (`learned_at_once`).

**Blanks in front.**  The two ways to cut differ in the blanks that the mark takes along.  They do not matter to what
a piece teaches (`Lesson.read_trimStart`).  Lower-casing looks at the neighbours of a letter, but a blank is no letter
with case, so what comes after leading blanks is lower-cased as if it stood at the beginning (`trim_lower_trimStart`).
-/

namespace PrimeReasoner

namespace Text

/-! ## Leading blanks -/

/-- No blank is a letter with case; the spans of both classes lie apart. -/
lemma isCased_eq_false_of_isBlank {c : Char} (hblank : isBlank c = true) : isCased c = false := by
  have hapart : ∀ blank ∈ blanks, ∀ letters ∈ cased, blank.last < letters.first ∨ letters.last < blank.first := by
    decide +kernel
  obtain ⟨blank, hmem, hfirst, hlast⟩ := CharSet.contains_iff.mp hblank
  rw [Bool.eq_false_iff]
  intro hcased
  obtain ⟨letters, hmem', hfirst', hlast'⟩ := CharSet.contains_iff.mp hcased
  have := hapart blank hmem letters hmem'
  omega

lemma trimStart_lower_trimStart (s : List Char) : trimStart (lower (trimStart s)) = trimStart (lower s) := by
  induction s with
  | nil => rfl
  | cons c s ih =>
      by_cases hblank : isBlank c = true
      · -- the blank is lower-cased to blanks, and what follows stands as if at the beginning
        have hdrop : trimStart (c :: s) = trimStart s := List.dropWhile_cons_of_pos hblank
        have hafter : afterLetter false c = false := by
          simp [afterLetter, isCased_eq_false_of_isBlank hblank]
        have hlower : lower (c :: s) = lowerAt false c s ++ lower s := by
          rw [lower, lowerOnto_cons, hafter, lower]
        have hblanks : ∀ d ∈ lowerAt false c s, isBlank d = true := fun d hd => (mem_lowerAt hd).2.trans hblank
        rw [hdrop, ih, hlower]
        exact (List.dropWhile_append_of_pos hblanks).symm
      · have hkeep : trimStart (c :: s) = c :: s := List.dropWhile_cons_of_neg hblank
        rw [hkeep]

/-- Leading blanks may be dropped before lower-casing. -/
lemma trim_lower_trimStart (s : List Char) : trim (lower (trimStart s)) = trim (lower s) := by
  rw [trim, trimStart_lower_trimStart, trim]

lemma trim_trimStart (s : List Char) : trim (trimStart s) = trim s := by
  rw [trim, trimStart, trimStart, List.dropWhile_idempotent, trim, trimStart]

end Text

open Text Sentence

lemma Sentence.tidy_trimStart (s : List Char) : tidy (trimStart s) = tidy s := by
  rw [tidy, trim_lower_trimStart, tidy]

/-! ## Lessons -/

namespace Lesson

/-- **Leading blanks teach nothing.** -/
lemma read_trimStart (s : List Char) : read (trimStart s) = read s := by
  have hrule : rule? (trimStart s) = rule? s := by rw [rule?, tidy_trimStart, rule?]
  have hfact : fact? (trimStart s) = fact? s := by rw [fact?, tidy_trimStart, fact?]
  rw [read, read, hrule, hfact, tidy_trimStart]

/-- What the pieces of a text teach that are not blank. -/
def readPieces (pieces : List (List Char)) : List Lesson :=
  (pieces.filter fun piece => !(trim piece).isEmpty).map read

lemma readPieces_append (pieces more : List (List Char)) :
    readPieces (pieces ++ more) = readPieces pieces ++ readPieces more := by
  simp [readPieces]

lemma readPieces_map_trimStart (pieces : List (List Char)) :
    readPieces (pieces.map trimStart) = readPieces pieces := by
  induction pieces with
  | nil => rfl
  | cons piece pieces ih =>
      unfold readPieces at ih ⊢
      rw [List.map_cons, List.filter_cons, List.filter_cons, trim_trimStart]
      split_ifs
      · rw [List.map_cons, List.map_cons, ih, read_trimStart]
      · exact ih

/-- A text teaches what its pieces between marks teach, with or without the blanks behind the marks. -/
lemma readAll_eq_readPieces (text : String) :
    readAll text = readPieces (splitWhere isSeparator text.toList) := by
  have hreads : readAll text = readPieces (sentences text.toList) := rfl
  rw [hreads, sentences]
  cases splitWhere isSeparator text.toList with
  | nil => rfl
  | cons piece pieces =>
      change readPieces ([piece] ++ pieces.map trimStart) = readPieces ([piece] ++ pieces)
      rw [readPieces_append, readPieces_append, readPieces_map_trimStart]

/-- **Two texts with a mark between them** teach what the first one teaches, then what the second one teaches. -/
theorem readAll_append_mark (first second : String) {mark : Char} (hmark : isSeparator mark = true) :
    readAll (first ++ String.singleton mark ++ second) = readAll first ++ readAll second := by
  have hlist : (first ++ String.singleton mark ++ second).toList = first.toList ++ mark :: second.toList := by simp
  rw [readAll_eq_readPieces, readAll_eq_readPieces, readAll_eq_readPieces, ← readPieces_append, hlist,
    splitWhere_eq_splitOnP, splitWhere_eq_splitOnP, splitWhere_eq_splitOnP,
    List.splitOnP_append_cons _ _ hmark]

end Lesson

namespace Session

lemma teach_append (session : Session) (lessons more : List Lesson) :
    session.teach (lessons ++ more) = (session.teach lessons).teach more := by
  simp [teach, List.foldl_append]

lemma sound_store_ofConfig {machine : Machine} {config : Config} {session : Session}
    (hsession : Session.ofConfig machine config = .ok session) : session.store.Sound := by
  obtain ⟨bound, rfl⟩ := eq_start_of_ofConfig hsession
  exact Store.sound_fresh bound []

end Session

/-- **Learning distributes over sentences.**  After any turns of a session, whatever its depth limit, take two texts,
which may be empty or blank or anything else, and one of the marks that end a sentence.  Learning the first text, then
the second one, and learning them at once with the mark between them lead to the same session: the same facts,
numbers, rules, concepts, source of primes and counters.  The lessons are those of the first text followed by those of
the second one, and so are the lines that report on them. -/
theorem learned_at_once {machine : Machine} {config : Config} {start : Session}
    (hsession : Session.ofConfig machine config = .ok start) (turns : List Session.Turn)
    (first second : String) {mark : Char} (hmark : mark ∈ ['.', '!', '?']) :
    let session := start.takeAll turns
    let joined := first ++ String.singleton mark ++ second
    ∃ lessons more : List Lesson,
      (session.learn first).1 = .ok lessons ∧ ((session.learn first).2.learn second).1 = .ok more ∧
      (session.learn joined).1 = .ok (lessons ++ more) ∧
      (session.learn joined).2 = ((session.learn first).2.learn second).2 ∧
      (session.learn joined).1.map (List.map Lesson.line) =
        .ok (lessons.map Lesson.line ++ more.map Lesson.line) := by
  intro session joined
  have h : session.store.Sound := Session.sound_takeAll (Session.sound_store_ofConfig hsession) turns
  have hmiddle : (session.teach (Lesson.readAll first)).store.Sound := (h.teachAll (Lesson.readAll first)).1
  have hjoined : Lesson.readAll joined = Lesson.readAll first ++ Lesson.readAll second :=
    Lesson.readAll_append_mark first second (List.contains_iff_mem.mpr hmark)
  refine ⟨Lesson.readAll first, Lesson.readAll second, ?_, ?_, ?_, ?_, ?_⟩
  · rw [Session.learn_eq h]
  · rw [Session.learn_eq h, Session.learn_eq hmiddle]
  · rw [Session.learn_eq h, hjoined]
  · rw [Session.learn_eq h, Session.learn_eq h, Session.learn_eq hmiddle, hjoined, Session.teach_append]
  · rw [Session.learn_eq h, hjoined, Except.map, List.map_append]

/-- A session that has been asked something. -/
def askedSession : Session := (Session.start .usual { sieveLimit := .int 0 } 0).takeAll [.ask "is a c"]

/-- The sigma at the end of a word is a final one, and the em space after the mark is dropped. -/
theorem learned_at_once_after_blank :
    (askedSession.learn ("ΑΣ is b" ++ String.singleton '!' ++ "\u2003All b are c. ?x")).1.map
      (List.map Lesson.line) =
      .ok ["Added fact: ας is b", "Added rule: All b are c", "Failed to parse: \"x\""] := by
  have hsession : Session.ofConfig .usual { sieveLimit := .int 0 } =
      .ok (Session.start .usual { sieveLimit := .int 0 } 0) := rfl
  obtain ⟨hfirst, hsecond⟩ :
      (askedSession.learn "ΑΣ is b").1.map (List.map Lesson.line) = .ok ["Added fact: ας is b"] ∧
      ((askedSession.learn "ΑΣ is b").2.learn "\u2003All b are c. ?x").1.map (List.map Lesson.line) =
        .ok ["Added rule: All b are c", "Failed to parse: \"x\""] := by decide +kernel
  have hmark : '!' ∈ ['.', '!', '?'] := by decide
  obtain ⟨lessons, more, hlessons, hmore, -, -, hlines⟩ :=
    learned_at_once hsession [.ask "is a c"] "ΑΣ is b" "\u2003All b are c. ?x" hmark
  have hfirst' : lessons.map Lesson.line = ["Added fact: ας is b"] :=
    Except.ok.inj ((congrArg (Except.map (List.map Lesson.line)) hlessons).symm.trans hfirst)
  have hsecond' : more.map Lesson.line = ["Added rule: All b are c", "Failed to parse: \"x\""] :=
    Except.ok.inj ((congrArg (Except.map (List.map Lesson.line)) hmore).symm.trans hsecond)
  rw [hfirst', hsecond'] at hlines
  exact hlines

end PrimeReasoner
