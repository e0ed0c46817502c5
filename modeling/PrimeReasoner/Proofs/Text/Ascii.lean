import PrimeReasoner.Proofs.Text.Lowercase
import PrimeReasoner.Proofs.Text.Words

/-!
# Plain letters

On the first 128 characters, lower-casing is what it is in English: a capital letter becomes the small one,
whatever stands next to it, and nothing else changes (`lower_eq_map_toLower`).

**Plain words** are made of such letters and of digits (`IsPlain`).  They hold no blank and no mark.
-/

namespace PrimeReasoner.Text

/-- What can be seen by going through the first 128 characters holds of each of them. -/
lemma forall_ascii {P : Char → Prop} (h : ∀ n : Fin 128, P (Char.ofNat n)) {c : Char}
    (hc : c.toNat < 128) : P c := by
  have hchar := h ⟨c.toNat, hc⟩
  rwa [Char.ofNat_toNat] at hchar

lemma lowerChar_ascii {c : Char} (hc : c.toNat < 128) : lowerChar c = [c.toLower] ∧ c ≠ capitalSigma :=
  forall_ascii (P := fun c => lowerChar c = [c.toLower] ∧ c ≠ capitalSigma) (by decide +kernel) hc

/-- Only a capital letter is changed, into another of the first 128 characters. -/
lemma toNat_lt_of_toLower {c : Char} (hc : c.toLower.toNat < 128) : c.toNat < 128 := by
  unfold Char.toLower at hc
  split_ifs at hc with hupper
  · have hle := UInt32.le_iff_toNat_le.mp hupper.2
    have hz : 'Z'.val.toNat = 90 := rfl
    have hdef : c.toNat = c.val.toNat := rfl
    omega
  · exact hc

/-- **Lower-casing plain text**, letter by letter. -/
lemma lower_eq_map_toLower {s : List Char} (hs : ∀ c ∈ s, c.toNat < 128) : lower s = s.map Char.toLower := by
  have hgeneral : ∀ before, lowerOnto [] before s = s.map Char.toLower := by
    induction s with
    | nil => exact fun _ => rfl
    | cons c rest ih =>
        obtain ⟨hc, hrest⟩ := List.forall_mem_cons.mp hs
        obtain ⟨hlower, hsigma⟩ := lowerChar_ascii hc
        intro before
        rw [lowerOnto_cons, lowerAt, if_neg hsigma, hlower, ih hrest]
        rfl
  exact hgeneral false

/-! ## Plain words -/

lemma toNat_lt_of_isAlphanum {c : Char} (hc : c.isAlphanum = true) : c.toNat < 128 := by
  have hranges : (decide ('A'.val ≤ c.val ∧ c.val ≤ 'Z'.val) ||
      (decide ('a'.val ≤ c.val) && decide (c.val ≤ 'z'.val)) ||
      (decide ('0'.val ≤ c.val) && decide (c.val ≤ '9'.val))) = true := hc
  simp only [Bool.or_eq_true, Bool.and_eq_true, decide_eq_true_eq, UInt32.le_iff_toNat_le] at hranges
  have hdef : c.toNat = c.val.toNat := rfl
  have hupper : 'Z'.val.toNat = 90 := rfl
  have hlower : 'z'.val.toNat = 122 := rfl
  have hdigit : '9'.val.toNat = 57 := rfl
  omega

/-- The word is not empty and has letters and digits only. -/
def IsPlain (word : List Char) : Prop := word ≠ [] ∧ ∀ c ∈ word, c.isAlphanum = true

instance (word : List Char) : Decidable (IsPlain word) :=
  decidable_of_iff (word ≠ [] ∧ word.all Char.isAlphanum = true) (by rw [List.all_eq_true, IsPlain])

lemma IsPlain.isWord {word : List Char} (h : IsPlain word) : IsWord word := by
  refine ⟨h.1, fun c hc => ?_⟩
  have halnum := h.2 c hc
  exact forall_ascii (P := fun c => c.isAlphanum = true → isBlank c = false) (by decide +kernel)
    (toNat_lt_of_isAlphanum halnum) halnum

lemma IsPlain.map_toLower {word : List Char} (h : IsPlain word) : IsPlain (word.map Char.toLower) := by
  refine ⟨by simpa using h.1, fun d hd => ?_⟩
  obtain ⟨c, hc, rfl⟩ := List.mem_map.mp hd
  have halnum := h.2 c hc
  exact forall_ascii (P := fun c => c.isAlphanum = true → c.toLower.isAlphanum = true) (by decide +kernel)
    (toNat_lt_of_isAlphanum halnum) halnum

variable {ws : List (List Char)}

/-- A text of plain words holds letters, digits and blanks. -/
lemma mem_unwords_plain (hws : ∀ word ∈ ws, IsPlain word) {c : Char} (hc : c ∈ unwords ws) :
    c.isAlphanum = true ∨ c = ' ' := by
  induction ws with
  | nil => simp [unwords] at hc
  | cons word ws ih =>
      obtain ⟨hword, hrest⟩ := List.forall_mem_cons.mp hws
      cases ws with
      | nil => exact .inl (hword.2 c (by simpa using hc))
      | cons next ws =>
          rw [unwords_cons word (by simp), List.mem_append, List.mem_cons] at hc
          rcases hc with hc | rfl | hc
          · exact .inl (hword.2 c hc)
          · exact .inr rfl
          · exact ih hrest hc

lemma map_toLower_unwords (ws : List (List Char)) :
    (unwords ws).map Char.toLower = unwords (ws.map (List.map Char.toLower)) := by
  induction ws with
  | nil => rfl
  | cons word ws ih =>
      cases ws with
      | nil => simp
      | cons next ws =>
          have hblank : ' '.toLower = ' ' := by decide
          rw [List.map_cons, unwords_cons word (by simp), unwords_cons (word.map Char.toLower) (by simp),
            List.map_append, List.map_cons, ih, hblank]

lemma toNat_lt_of_mem_unwords (hws : ∀ word ∈ ws, IsPlain word) : ∀ c ∈ unwords ws, c.toNat < 128 := by
  intro c hc
  rcases mem_unwords_plain hws hc with halnum | rfl
  · exact toNat_lt_of_isAlphanum halnum
  · decide

/-- **Letter case does not matter**: what differs from plain text in letter case only is lower-cased alike. -/
lemma lower_of_map_toLower {s t : List Char} (h : s.map Char.toLower = t) (ht : ∀ c ∈ t, c.toNat < 128) :
    lower s = t := by
  rw [← h]
  refine lower_eq_map_toLower fun c hc => toNat_lt_of_toLower (ht _ ?_)
  rw [← h]
  exact List.mem_map_of_mem hc

end PrimeReasoner.Text
