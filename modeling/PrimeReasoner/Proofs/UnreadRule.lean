import PrimeReasoner.Proofs.Joining

/-!
# Implications that cannot be read

A sentence may begin with "if" and still not be a rule: a side or a condition of it says nothing, or "then" stands
in it twice.  It is then read as any other statement, and a statement is looked for by its phrases alone, wherever
they stand.

**Statements.**  A phrase has a blank at each end, and a tidy text has none, so that there is always something on
both sides (`Trimmed.trim_sides_ne_nil`).  Dropping a verb or an article leaves something, too.  Hence a sentence is
a statement exactly if one of the phrases cuts it in two (`fact?_isSome_iff`).

**Implications.**  One that is not read as a rule adds no rule.  It adds a fact if one of the phrases cuts it in two,
and otherwise it is reported and changes nothing (`unread_implication`).
-/

namespace PrimeReasoner

namespace Text

variable {phrase s before after : List Char}

/-- **There is something on both sides** of a phrase that a trimmed text has, if a blank stands at each end of the
phrase. -/
lemma Trimmed.trim_sides_ne_nil (h : Trimmed (before ++ (phrase ++ after))) (hfirst : phrase.head? = some ' ')
    (hlast : phrase.getLast? = some ' ') : trim before ≠ [] ∧ trim after ≠ [] := by
  obtain ⟨hhead, hend⟩ := h
  have hblank : isBlank ' ' = true := by decide
  constructor
  · cases before with
    | nil => simp [hfirst, hblank] at hhead
    | cons c before => exact trim_ne_nil_of_mem List.mem_cons_self (hhead c rfl)
  · rcases List.eq_nil_or_concat' after with rfl | ⟨rest, c, rfl⟩
    · simp [hlast, hblank] at hend
    · refine trim_ne_nil_of_mem (List.mem_append_right rest List.mem_cons_self) (hend c ?_)
      simp [← List.append_assoc]

lemma length_splitAll_eq_one_iff (hne : phrase ≠ []) :
    (splitAll phrase s).length = 1 ↔ occursIn phrase s = false := by
  cases hbreak : breakOn phrase s with
  | none =>
      have hnone : occursIn phrase s = false := by rw [occursIn, hbreak, Option.isSome_none]
      simp [splitAll_of_not_occursIn hnone, hnone]
  | some sides =>
      have hsome : occursIn phrase s = true := by rw [occursIn, hbreak, Option.isSome_some]
      simp [splitAll_of_breakOn hne hbreak, splitAll_ne_nil, hsome]

/-- **A trimmed text is cut** at a phrase that leaves two pieces of it. -/
lemma cutOnce_isSome_iff (hs : Trimmed s) (hfirst : phrase.head? = some ' ') (hlast : phrase.getLast? = some ' ') :
    (cutOnce phrase s).isSome ↔ (splitAll phrase s).length = 2 := by
  have hne : phrase ≠ [] := by
    rintro rfl
    simp at hfirst
  unfold cutOnce
  cases hbreak : breakOn phrase s with
  | none =>
      have hnone : occursIn phrase s = false := by rw [occursIn, hbreak, Option.isSome_none]
      simp [splitAll_of_not_occursIn hnone]
  | some sides =>
      obtain ⟨before, after⟩ := sides
      obtain ⟨hbefore, hafter⟩ := (breakOn_eq_some hbreak ▸ hs).trim_sides_ne_nil hfirst hlast
      have hpieces := length_splitAll_eq_one_iff (s := after) hne
      simp [splitAll_of_breakOn hne hbreak, hbefore, hafter, hpieces]

end Text

namespace Sentence

open Text

/-- The phrases that statements are told by. -/
def factPhrases : List String := " part of " :: connectives.map Connective.phrase

lemma trimmed_tidy (s : List Char) : Trimmed (tidy s) := trimmed_trim _

/-- In front of a verb there is something left. -/
lemma withoutVerb_ne_nil {s : List Char} (h : Trimmed s) (hne : s ≠ []) : withoutVerb s ≠ [] := by
  unfold withoutVerb
  split_ifs with hverb
  · obtain ⟨rest, rfl⟩ := List.isSuffixOf_iff_suffix.mp hverb
    have hkept : (rest ++ " is".toList).take ((rest ++ " is".toList).length - 3) = rest := by simp
    rw [hkept]
    cases rest with
    | nil => exact absurd (h.1 ' ' (by decide)) (by decide)
    | cons c rest => exact trim_ne_nil_of_mem List.mem_cons_self (h.1 c rfl)
  · exact hne

/-- **A statement about a part** is read wherever its phrase cuts the text, as verb and articles leave something. -/
lemma partFact?_isSome_iff {s : List Char} (hs : Trimmed s) :
    (partFact? s).isSome ↔ (splitAll partPhrase s).length = 2 := by
  rw [← cutOnce_isSome_iff hs (by decide) (by decide), partFact?]
  cases hcut : cutOnce partPhrase s with
  | none => simp
  | some sides =>
      obtain ⟨part, whole⟩ := sides
      obtain ⟨⟨hpart, hne⟩, hwhole, hne'⟩ := cutOnce_sides hcut
      have hpart' := withoutArticle_ne_nil (trimmed_withoutVerb hpart) (withoutVerb_ne_nil hpart hne)
      have hwhole' := withoutArticle_ne_nil hwhole hne'
      simp [hpart', hwhole']

lemma blanks_around : ∀ connective ∈ connectives,
    connective.phrase.toList.head? = some ' ' ∧ connective.phrase.toList.getLast? = some ' ' := by
  decide +kernel

lemma Connective.read?_isSome_iff {connective : Connective} (hconnective : connective ∈ connectives)
    {s : List Char} (hs : Trimmed s) :
    (connective.read? s).isSome ↔ (splitAll connective.phrase.toList s).length = 2 := by
  obtain ⟨hfirst, hlast⟩ := blanks_around connective hconnective
  rw [Connective.read?, Option.isSome_map, cutOnce_isSome_iff hs hfirst hlast]

/-- **A sentence is a statement** exactly if one of the phrases cuts it in two. -/
theorem fact?_isSome_iff (s : List Char) :
    (fact? s).isSome ↔ ∃ phrase ∈ factPhrases, (splitAll phrase.toList (tidy s)).length = 2 := by
  have hs := trimmed_tidy s
  have hpart := partFact?_isSome_iff hs
  have hconnectives : ((connectives.findSome? fun connective => connective.read? (tidy s)).isSome) ↔
      ∃ connective ∈ connectives, (splitAll connective.phrase.toList (tidy s)).length = 2 := by
    rw [List.findSome?_isSome_iff]
    refine exists_congr fun connective => and_congr_right fun hconnective => ?_
    exact Connective.read?_isSome_iff hconnective hs
  have hphrase : " part of ".toList = partPhrase := rfl
  simp only [factPhrases, List.exists_mem_cons_iff, List.mem_map, exists_exists_and_eq_and, ← hconnectives, hphrase,
    ← hpart]
  rw [fact?]
  cases partFact? (tidy s) <;> simp

lemma tidy_eq_nil_of_trim {s : List Char} (h : trim s = []) : tidy s = [] := by
  have hblank : trimStart s = [] := List.dropWhile_eq_nil_iff.mpr (trim_eq_nil_iff.mp h)
  rw [← tidy_trimStart, hblank]
  rfl

end Sentence

open Sentence

/-- A text without marks is one sentence. -/
lemma Lesson.readAll_of_no_mark {text : String} (hmarks : ∀ c ∈ text.toList, isSeparator c = false)
    (hne : tidy text.toList ≠ []) : Lesson.readAll text = [Lesson.read text.toList] := by
  have hkept : Text.trim text.toList ≠ [] := fun hnil => hne (tidy_eq_nil_of_trim hnil)
  rw [readAll, statements, sentences_of_no_mark hmarks]
  simp [hkept]

/-- **What an implication that cannot be read teaches.**  After any turns of a session, whatever its depth limit, take
a sentence that begins with "if" and is not read as a rule.  It adds no rule.  If one of the phrases of statements cuts
it in two, it is read as that statement, and adds just this fact.  Otherwise it is reported, and what is known stays as
it was. -/
theorem unread_implication {machine : Machine} {config : Config} {start : Session}
    (hsession : Session.ofConfig machine config = .ok start) (turns : List Session.Turn)
    {text : String} (hmarks : ∀ c ∈ text.toList, isSeparator c = false)
    (hif : "if ".toList <+: tidy text.toList) (hunread : rule? text.toList = none) :
    let session := start.takeAll turns
    let later := (session.learn text).2
    let cutInTwo := ∃ phrase ∈ factPhrases, (Text.splitAll phrase.toList (tidy text.toList)).length = 2
    later.store.knowledge.rules = session.store.knowledge.rules ∧
    (cutInTwo → ∃ fact, fact? text.toList = some fact ∧ (session.learn text).1 = .ok [.fact fact] ∧
      later.store.knowledge.facts = session.store.knowledge.facts ++ [fact]) ∧
    (¬ cutInTwo → (session.learn text).1 = .ok [.rejected (String.ofList (tidy text.toList))] ∧
      later.store = session.store) := by
  intro session later cutInTwo
  have h : session.store.Sound := Session.sound_takeAll (Session.sound_store_ofConfig hsession) turns
  have hne : tidy text.toList ≠ [] := by
    intro hnil
    rw [hnil] at hif
    exact absurd (List.prefix_nil.mp hif) (by decide)
  have hlearn := Session.learn_eq h text
  rw [Lesson.readAll_of_no_mark hmarks hne, Lesson.read, hunread] at hlearn
  have hlater : later = (session.learn text).2 := rfl
  have hstatement : (fact? text.toList).isSome ↔ cutInTwo := fact?_isSome_iff text.toList
  rw [hlater, hlearn]
  cases hfact : fact? text.toList with
  | none =>
      have hreported : ¬ cutInTwo := by simp [← hstatement, hfact]
      exact ⟨rfl, fun hcut => absurd hcut hreported, fun _ => ⟨rfl, rfl⟩⟩
  | some fact =>
      have hcut : cutInTwo := hstatement.mp (by simp [hfact])
      obtain ⟨n, encoder, hadd⟩ := (Encoder.asks_encodeFact fact).exists_ok h.encoder (fact?_isComplete hfact)
      have hstore : (session.store.addFact fact).2 =
          { encoder, knowledge := session.store.knowledge.withFact fact n } := by rw [Store.addFact, hadd]
      rw [Session.store_teach, List.foldl_cons, List.foldl_nil, Store.teach, hstore]
      exact ⟨rfl, fun _ => ⟨fact, rfl, rfl, rfl⟩, fun hreported => absurd hcut hreported⟩

/-- A session that has been told something. -/
def toldSession : Session := (Session.start .usual { sieveLimit := .int 0 } 0).takeAll [.learn "a is b."]

/-- With one "is" the sentence is read as a statement, with three it is reported. -/
theorem unread_implications_after_statement :
    (toldSession.learn "If a is b then plugh,").2.store.knowledge.facts =
      toldSession.store.knowledge.facts ++ [⟨"if a", "is", "b then plugh"⟩] ∧
    (toldSession.learn "If a is b then a is c then a is d").1 =
      .ok [.rejected "if a is b then a is c then a is d"] ∧
    (toldSession.learn "If a is b then a is c then a is d").2.store = toldSession.store := by
  have hsession : Session.ofConfig .usual { sieveLimit := .int 0 } =
      .ok (Session.start .usual { sieveLimit := .int 0 } 0) := rfl
  have htold : (Session.start .usual { sieveLimit := .int 0 } 0).takeAll [.learn "a is b."] = toldSession := rfl
  obtain ⟨hif, hunread, hcut, hread⟩ :
      "if ".toList <+: tidy "If a is b then plugh,".toList ∧ rule? "If a is b then plugh,".toList = none ∧
      (∃ phrase ∈ factPhrases, (Text.splitAll phrase.toList (tidy "If a is b then plugh,".toList)).length = 2) ∧
      fact? "If a is b then plugh,".toList = some ⟨"if a", "is", "b then plugh"⟩ := by
    decide +kernel
  obtain ⟨htidy, hif', hunread', huncut⟩ :
      String.ofList (tidy "If a is b then a is c then a is d".toList) = "if a is b then a is c then a is d" ∧
      "if ".toList <+: tidy "If a is b then a is c then a is d".toList ∧
      rule? "If a is b then a is c then a is d".toList = none ∧
      ¬ ∃ phrase ∈ factPhrases,
        (Text.splitAll phrase.toList (tidy "If a is b then a is c then a is d".toList)).length = 2 := by
    decide +kernel
  obtain ⟨-, hstatement, -⟩ :=
    unread_implication hsession [.learn "a is b."] (by simp [isSeparator]) hif hunread
  obtain ⟨fact, hfact, -, hadded⟩ := hstatement hcut
  obtain rfl := Option.some.inj (hfact.symm.trans hread)
  obtain ⟨-, -, hreported⟩ :=
    unread_implication hsession [.learn "a is b."] (by simp [isSeparator]) hif' hunread'
  obtain ⟨hline, hstore⟩ := hreported huncut
  rw [htold] at hadded hline hstore
  rw [htidy] at hline
  exact ⟨hadded, hline, hstore⟩

/-- **An implication that is not read as a rule may still be stored**, as a statement. -/
theorem stored_as_statement :
    let session := Session.start .usual { sieveLimit := .int 0 } 0
    let text := "If x then a is b"
    Session.ofConfig .usual { sieveLimit := .int 0 } = .ok session ∧
    (∀ c ∈ text.toList, isSeparator c = false) ∧
    "if ".toList <+: tidy text.toList ∧ Text.occursIn " then ".toList (tidy text.toList) = true ∧
    rule? text.toList = none ∧
    (session.learn text).1.map (List.map Lesson.line) = .ok ["Added fact: if x then a is b"] ∧
    (session.learn text).2.store.knowledge.facts = [⟨"if x then a", "is", "b"⟩] := by
  refine ⟨rfl, by simp [isSeparator], ?_⟩
  decide +kernel

end PrimeReasoner
