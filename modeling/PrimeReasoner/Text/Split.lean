import PrimeReasoner.Text.Blank

/-!
# Cutting at a phrase

Sentences are taken apart by looking for a fixed phrase such as `" is "`.

* `breakOn` finds the leftmost occurrence of a phrase and gives the text before and after it.
* `cutOnce` demands that the phrase occurs exactly once and has something on both sides, and
  gives the two sides trimmed.
* `splitAll` gives all the pieces between occurrences, found from left to right without overlap.
-/

namespace PrimeReasoner.Text

/-- Looks for a phrase in the rest of a text, behind the reversed text `done` already passed. -/
def breakFrom (phrase done : List Char) (s : List Char) : Option (List Char × List Char) :=
  if phrase.isPrefixOf s then some (done.reverse, s.drop phrase.length)
  else match s with
    | [] => none
    | c :: rest => breakFrom phrase (c :: done) rest

/-- The text before and after the leftmost occurrence of a phrase. -/
def breakOn (phrase s : List Char) : Option (List Char × List Char) := breakFrom phrase [] s

/-- Does the phrase occur in the text? -/
def occursIn (phrase s : List Char) : Bool := (breakOn phrase s).isSome

/-- What follows an occurrence is shorter than the text by at least the phrase. -/
theorem length_of_breakFrom {phrase done s before after : List Char}
    (h : breakFrom phrase done s = some (before, after)) :
    after.length + phrase.length ≤ s.length := by
  induction s generalizing done with
  | nil =>
    unfold breakFrom at h
    split at h
    · next hp =>
      cases phrase with
      | nil => simp_all
      | cons _ _ => simp at hp
    · simp at h
  | cons c rest ih =>
    unfold breakFrom at h
    split at h
    · next hp =>
      have hle := (List.isPrefixOf_iff_prefix.mp hp).length_le
      have hafter : after = (c :: rest).drop phrase.length := by simp_all
      rw [hafter, List.length_drop]
      omega
    · have := ih h
      simp only [List.length_cons]
      omega

theorem length_of_breakOn {phrase s before after : List Char}
    (h : breakOn phrase s = some (before, after)) :
    after.length + phrase.length ≤ s.length := length_of_breakFrom h

/-- The trimmed sides of a phrase that occurs exactly once and has something on both sides. -/
def cutOnce (phrase s : List Char) : Option (List Char × List Char) :=
  match breakOn phrase s with
  | none => none
  | some (before, after) =>
    if occursIn phrase after || (trim before).isEmpty || (trim after).isEmpty then none
    else some (trim before, trim after)

/-- The pieces between the occurrences of a phrase; the whole text for an empty phrase. -/
def splitAll (phrase s : List Char) : List (List Char) :=
  if hphrase : phrase = [] then [s]
  else match hbreak : breakOn phrase s with
    | none => [s]
    | some (before, after) =>
      have : after.length < s.length := by
        have := length_of_breakOn hbreak
        have := List.length_pos_iff.mpr hphrase
        omega
      before :: splitAll phrase after
termination_by s.length

/-- The text behind a given beginning, if it has that beginning. -/
def after? (beginning s : List Char) : Option (List Char) :=
  if beginning.isPrefixOf s then some (s.drop beginning.length) else none

end PrimeReasoner.Text
