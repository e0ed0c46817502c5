import PrimeReasoner.Text.LetterCase

/-!
# Lower-casing

`lower` replaces every capital letter by its small form. Two letters need care. The dotted capital
I becomes an `i` followed by a combining dot. The capital sigma has two small forms: it becomes a
final sigma at the end of a word, that is, when a letter with case precedes it and none follows it,
where ignorable characters on either side are skipped.

* `lowerChar` is the small form of a letter whose form does not depend on its neighbours.
* `sigma` picks the form of a capital sigma.
* `lower` lower-cases a whole text in one pass, remembering whether a letter with case was the last
  character that was not skipped.
-/

namespace PrimeReasoner.Text

/-- Is the character skipped in the search for a neighbouring letter? -/
def isIgnorable (c : Char) : Bool := ignorable.contains c

/-- Is the character a letter with case that is not skipped? -/
def isCased (c : Char) : Bool := cased.contains c

/-- The capital sigma. -/
def capitalSigma : Char := '\u03A3'

/-- The capital I with a dot above. -/
def dottedCapitalI : Char := '\u0130'

/-- The small form of a letter other than the capital sigma. -/
def lowerChar (c : Char) : List Char :=
  if c = dottedCapitalI then ['i', '\u0307']
  else match lowerRuns.find? fun run => run.holds c.toNat with
    | some run => [Char.ofNat (run.lower c.toNat)]
    | none => [c]

/-- Is the first character that is not skipped a letter with case? -/
def startsCased (s : List Char) : Bool :=
  match s.dropWhile isIgnorable with
  | [] => false
  | c :: _ => isCased c

/-- The small form of a capital sigma: final when a letter with case precedes it
(`afterLetter`) and none follows it. -/
def sigma (afterLetter : Bool) (rest : List Char) : Char :=
  if afterLetter && !startsCased rest then '\u03C2' else '\u03C3'

/-- Whether the last character that is not skipped is a letter with case, once `c` is read. -/
def afterLetter (before : Bool) (c : Char) : Bool :=
  if isIgnorable c then before else isCased c

/-- The small form of a character in its place. -/
def lowerAt (before : Bool) (c : Char) (rest : List Char) : List Char :=
  if c = capitalSigma then [sigma before rest] else lowerChar c

/-- Lower-cases the rest of a text behind the reversed result `done`. -/
def lowerOnto (done : List Char) (before : Bool) : List Char → List Char
  | [] => done.reverse
  | c :: rest => lowerOnto ((lowerAt before c rest).reverse ++ done) (afterLetter before c) rest

/-- The text with every capital letter replaced by its small form. -/
def lower (s : List Char) : List Char := lowerOnto [] false s

/-- What has been lower-cased stays in front. -/
theorem lowerOnto_eq (done : List Char) (before : Bool) (s : List Char) :
    lowerOnto done before s = done.reverse ++ lowerOnto [] before s := by
  induction s generalizing done before with
  | nil => simp [lowerOnto]
  | cons c rest ih =>
    rw [lowerOnto, lowerOnto, ih, ih ((lowerAt before c rest).reverse ++ [])]
    simp

theorem lowerOnto_cons (before : Bool) (c : Char) (rest : List Char) :
    lowerOnto [] before (c :: rest) =
      lowerAt before c rest ++ lowerOnto [] (afterLetter before c) rest := by
  rw [lowerOnto, lowerOnto_eq]
  simp

@[simp] theorem lower_nil : lower [] = [] := rfl

end PrimeReasoner.Text
