import Mathlib.Data.List.Basic
import PrimeReasoner.Text.Blank
import PrimeReasoner.Text.Lowercase

/-!
# Lower-casing settles a text

A second pass of lower-casing changes nothing.  That is a fact about the table of letters: no small
letter that the table gives is itself a capital.  The form of a capital sigma depends on its
neighbours, but there is no capital left for which a second pass could decide otherwise.

**The table.**  Comparing 1431 small letters with 181 runs one by one is wasteful.  A run and the small
letters of another one lie apart as intervals, or they alternate; both are seen from the ends of the
runs alone (`CaseRun.isApart`), and one evaluation settles all pairs (`lowerRuns_apart`).

**Blanks.**  The table neither reads nor gives a blank, so every character comes from a blank exactly
if it is one (`mem_lowerAt`).
-/

namespace PrimeReasoner.Text

/-! ## The table -/

/-- Is no small letter of the first run a capital of the second?  Either one lies beyond the other,
or both have every second place and start an odd distance apart. -/
def CaseRun.isApart (run other : CaseRun) : Bool :=
  Nat.blt (run.lower run.last) other.first || Nat.blt other.last (run.lower run.first) ||
    (Nat.beq other.step 2 && (Nat.beq run.step 2 || Nat.beq run.first run.last) &&
      Nat.blt other.first (run.lower run.first) &&
      Nat.beq ((run.lower run.first - other.first) % 2) 1)

/-- Do the capitals and the small letters of the run lie outside the interval? -/
def CaseRun.isOutside (run : CaseRun) (span : Span) : Bool :=
  (Nat.blt run.last span.first || Nat.blt span.last run.first) &&
    (Nat.blt (run.lower run.last) span.first || Nat.blt span.last (run.lower run.first))

/-- What the table must keep away from: the two letters with rules of their own, the codes that are
no characters, and the blanks. -/
def forbidden : CharSet := ⟨0x130, 0x130⟩ :: ⟨0x3A3, 0x3A3⟩ :: ⟨0xD800, 0xDFFF⟩ :: blanks

lemma lowerRuns_apart :
    (lowerRuns.all fun run => lowerRuns.all fun other => run.isApart other) = true := by
  decide +kernel

lemma lowerRuns_outside :
    (lowerRuns.all fun run => forbidden.all fun span => run.isOutside span) = true := by
  decide +kernel

lemma lowerRuns_below : (lowerRuns.all fun run => Nat.blt (run.lower run.last) 0x110000) = true := by
  decide +kernel

lemma CaseRun.holds_iff {run : CaseRun} {code : ℕ} :
    run.holds code = true ↔
      (run.first ≤ code ∧ code ≤ run.last) ∧ (code - run.first) % run.step = 0 := by
  simp [CaseRun.holds]

/-- The small letters of a run lie between those of its ends. -/
lemma CaseRun.lower_between {run : CaseRun} {code : ℕ} (h : run.holds code = true) :
    run.lower run.first ≤ run.lower code ∧ run.lower code ≤ run.lower run.last := by
  obtain ⟨⟨hfirst, hlast⟩, -⟩ := CaseRun.holds_iff.mp h
  simp only [CaseRun.lower]
  omega

lemma CaseRun.holds_lower_of_isApart {run other : CaseRun} {code : ℕ}
    (hapart : run.isApart other = true) (h : run.holds code = true) :
    other.holds (run.lower code) = false := by
  obtain ⟨hlow, hhigh⟩ := CaseRun.lower_between h
  obtain ⟨⟨hfirst, hlast⟩, hstep⟩ := CaseRun.holds_iff.mp h
  rw [Bool.eq_false_iff]
  intro hother
  obtain ⟨⟨hfirst', hlast'⟩, hstep'⟩ := CaseRun.holds_iff.mp hother
  simp only [CaseRun.isApart, Bool.or_eq_true, Bool.and_eq_true, Nat.blt_eq, Nat.beq_eq] at hapart
  rcases hapart with (hbelow | habove) | ⟨⟨⟨htwo, hsame⟩, hlt⟩, hodd⟩
  · omega
  · omega
  · -- the two runs alternate
    rw [htwo] at hstep'
    simp only [CaseRun.lower] at hlow hhigh hlt hodd hstep' hfirst' hlast'
    rcases hsame with hsame | hsame
    · rw [hsame] at hstep
      omega
    · omega

/-- A small letter of the table is a character, and no capital, blank or special letter. -/
lemma CaseRun.settled {run : CaseRun} (hrun : run ∈ lowerRuns) {code : ℕ}
    (h : run.holds code = true) :
    (Char.ofNat (run.lower code)).toNat = run.lower code ∧
      (∀ other ∈ lowerRuns, other.holds (run.lower code) = false) ∧
      ∀ span ∈ forbidden, span.holds code = false ∧ span.holds (run.lower code) = false := by
  obtain ⟨hlow, hhigh⟩ := CaseRun.lower_between h
  obtain ⟨⟨hfirst, hlast⟩, -⟩ := CaseRun.holds_iff.mp h
  have houtside : ∀ span ∈ forbidden,
      span.holds code = false ∧ span.holds (run.lower code) = false := by
    intro span hspan
    have := List.all_eq_true.mp (List.all_eq_true.mp lowerRuns_outside run hrun) span hspan
    simp only [CaseRun.isOutside, Bool.and_eq_true, Bool.or_eq_true, Nat.blt_eq] at this
    simp only [Span.holds, Bool.and_eq_false_iff, decide_eq_false_iff_not]
    omega
  refine ⟨?_, fun other hother => ?_, houtside⟩
  · have hbelow := List.all_eq_true.mp lowerRuns_below run hrun
    have hgap := (houtside ⟨0xD800, 0xDFFF⟩ (by simp [forbidden])).2
    simp only [Nat.blt_eq] at hbelow
    simp only [Span.holds, Bool.and_eq_false_iff, decide_eq_false_iff_not] at hgap
    have hvalid : (run.lower code).isValidChar := by
      unfold Nat.isValidChar
      omega
    rw [Char.ofNat, dif_pos hvalid]
    rfl
  · exact CaseRun.holds_lower_of_isApart
      (List.all_eq_true.mp (List.all_eq_true.mp lowerRuns_apart run hrun) other hother) h

/-! ## One character -/

/-- A character that lower-casing leaves alone wherever it stands. -/
def IsSmall (c : Char) : Prop := lowerChar c = [c] ∧ c ≠ capitalSigma

lemma isSmall_of_not_mem {c : Char} (hcapital : ∀ run ∈ lowerRuns, run.holds c.toNat = false)
    (hdotted : c ≠ dottedCapitalI) (hsigma : c ≠ capitalSigma) : IsSmall c := by
  refine ⟨?_, hsigma⟩
  have hfind : (lowerRuns.find? fun run => run.holds c.toNat) = none := by
    rw [List.find?_eq_none]
    intro run hrun
    simp [hcapital run hrun]
  rw [lowerChar, if_neg hdotted, hfind]

lemma isBlank_eq_false_of_holds {c : Char} {code : ℕ} (hc : c.toNat = code)
    (h : ∀ span ∈ forbidden, span.holds code = false) : isBlank c = false := by
  rw [isBlank, CharSet.contains, List.any_eq_false]
  intro span hspan
  simpa [hc] using h span (by simp [forbidden, hspan])

/-- What a character other than the capital sigma becomes is small, and blank exactly if the
character is. -/
lemma mem_lowerChar {c d : Char} (hsigma : c ≠ capitalSigma) (hd : d ∈ lowerChar c) :
    IsSmall d ∧ isBlank d = isBlank c := by
  by_cases hdotted : c = dottedCapitalI
  · subst hdotted
    rw [lowerChar, if_pos rfl] at hd
    rcases List.mem_cons.mp hd with rfl | hd
    · exact ⟨⟨by decide +kernel, by decide⟩, by decide⟩
    · rw [List.mem_singleton.mp hd]
      exact ⟨⟨by decide +kernel, by decide⟩, by decide⟩
  · cases hfind : lowerRuns.find? fun run => run.holds c.toNat with
    | none =>
        rw [lowerChar, if_neg hdotted, hfind, List.mem_singleton] at hd
        subst hd
        have hcapital : ∀ run ∈ lowerRuns, run.holds d.toNat = false := by
          simpa using List.find?_eq_none.mp hfind
        exact ⟨isSmall_of_not_mem hcapital hdotted hsigma, rfl⟩
    | some run =>
        rw [lowerChar, if_neg hdotted, hfind, List.mem_singleton] at hd
        have hrun : run ∈ lowerRuns := List.mem_of_find?_eq_some hfind
        have hholds : run.holds c.toNat = true := by simpa using List.find?_some hfind
        obtain ⟨hcode, hcapital, houtside⟩ := CaseRun.settled hrun hholds
        rw [← hd] at hcode
        have hother : ∀ special : Char, (⟨special.toNat, special.toNat⟩ : Span) ∈ forbidden →
            d ≠ special := by
          rintro special hspecial rfl
          have := (houtside _ hspecial).2
          simp [Span.holds, ← hcode] at this
        refine ⟨isSmall_of_not_mem (by rwa [hcode]) (hother _ ?_) (hother _ ?_), ?_⟩
        · simp [forbidden, dottedCapitalI]
        · simp [forbidden, capitalSigma]
        · rw [isBlank_eq_false_of_holds hcode fun span hspan => (houtside span hspan).2,
            isBlank_eq_false_of_holds rfl fun span hspan => (houtside span hspan).1]

lemma lowerChar_ne_nil (c : Char) : lowerChar c ≠ [] := by
  unfold lowerChar
  split_ifs
  · simp
  · split <;> simp

/-- What a character becomes in its place is small, and blank exactly if the character is. -/
lemma mem_lowerAt {before : Bool} {c d : Char} {rest : List Char} (hd : d ∈ lowerAt before c rest) :
    IsSmall d ∧ isBlank d = isBlank c := by
  unfold lowerAt at hd
  split_ifs at hd with hsigma
  · subst hsigma
    rw [List.mem_singleton] at hd
    subst hd
    unfold sigma
    split_ifs
    · exact ⟨⟨by decide +kernel, by decide⟩, by decide⟩
    · exact ⟨⟨by decide +kernel, by decide⟩, by decide⟩
  · exact mem_lowerChar hsigma hd

lemma lowerAt_ne_nil (before : Bool) (c : Char) (rest : List Char) : lowerAt before c rest ≠ [] := by
  unfold lowerAt
  split_ifs
  · simp
  · exact lowerChar_ne_nil c

/-! ## Whole texts -/

lemma mem_lowerOnto {before : Bool} {s : List Char} {d : Char} (hd : d ∈ lowerOnto [] before s) :
    IsSmall d := by
  induction s generalizing before with
  | nil => simp [lowerOnto] at hd
  | cons c rest ih =>
      rw [lowerOnto_cons, List.mem_append] at hd
      rcases hd with hd | hd
      · exact (mem_lowerAt hd).1
      · exact ih hd

lemma lowerOnto_of_small {before : Bool} {s : List Char} (h : ∀ c ∈ s, IsSmall c) :
    lowerOnto [] before s = s := by
  induction s generalizing before with
  | nil => rfl
  | cons c rest ih =>
      obtain ⟨hlower, hsigma⟩ := h c List.mem_cons_self
      rw [lowerOnto_cons, lowerAt, if_neg hsigma, hlower,
        ih fun d hd => h d (List.mem_cons_of_mem c hd)]
      rfl

/-- **A second pass changes nothing.** -/
@[simp] lemma lower_lower (s : List Char) : lower (lower s) = lower s :=
  lowerOnto_of_small fun _ hd => mem_lowerOnto hd

lemma lowerOnto_eq_nil_iff {before : Bool} {s : List Char} :
    lowerOnto [] before s = [] ↔ s = [] := by
  cases s with
  | nil => simp [lowerOnto]
  | cons c rest => simp [lowerOnto_cons, lowerAt_ne_nil]

@[simp] lemma lower_eq_nil_iff {s : List Char} : lower s = [] ↔ s = [] := lowerOnto_eq_nil_iff

/-- The first character of the result is blank exactly if that of the text is. -/
lemma isBlank_head_lowerOnto {before : Bool} {s : List Char} {c d : Char} (hc : s.head? = some c)
    (hd : (lowerOnto [] before s).head? = some d) : isBlank d = isBlank c := by
  cases s with
  | nil => simp at hc
  | cons a rest =>
      obtain rfl := Option.some.inj hc
      obtain ⟨first, more, hmore⟩ := List.exists_cons_of_ne_nil (lowerAt_ne_nil before a rest)
      rw [lowerOnto_cons, hmore, List.cons_append, List.head?_cons, Option.some.injEq] at hd
      subst hd
      exact (@mem_lowerAt before a first rest (by simp [hmore])).2

/-- So is the last one. -/
lemma isBlank_last_lowerOnto {before : Bool} {s : List Char} {c d : Char}
    (hc : s.getLast? = some c) (hd : (lowerOnto [] before s).getLast? = some d) :
    isBlank d = isBlank c := by
  induction s generalizing before with
  | nil => simp at hc
  | cons a rest ih =>
      rw [lowerOnto_cons, List.getLast?_append] at hd
      cases hrest : rest with
      | nil =>
          subst hrest
          obtain rfl := Option.some.inj hc
          rw [lowerOnto, List.reverse_nil, List.getLast?_nil, Option.none_or] at hd
          exact (mem_lowerAt (List.mem_of_getLast? hd)).2
      | cons b more =>
          have hne : lowerOnto [] (afterLetter before a) rest ≠ [] := by
            rw [Ne, lowerOnto_eq_nil_iff, hrest]
            simp
          obtain ⟨last, hlast⟩ := Option.ne_none_iff_exists'.mp
            (mt List.getLast?_eq_none_iff.mp hne)
          rw [hlast, Option.some_or] at hd
          rw [hrest, List.getLast?_cons_cons, ← hrest] at hc
          exact ih hc (hlast.trans hd)

end PrimeReasoner.Text
