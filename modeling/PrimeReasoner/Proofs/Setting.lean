import Mathlib.Data.List.Basic
import PrimeReasoner.Config

/-!
# Values of options

**Entries.**  A mapping is a list of entries, of which the first one with a key counts.  Setting an entry under a
text changes what is found under that text and nothing else (`Setting.entry?_put`).

**Opening a mapping.**  Its entries are given with the mapping in the place of what refers to it.  A mapping that
counts as false has none (`Setting.eq_nil_of_entries?`).

**Equality** of values can be decided, although they are nested: `Setting.same` compares them part by part.
-/

namespace PrimeReasoner

namespace Setting

/-! ## Entries of mappings -/

lemma sameKey_text_iff (key : Setting) (name : String) :
    key.sameKey (.text name) = true ↔ key = .text name := by
  cases key with
  | scalar value => cases value <;> simp [sameKey, Scalar.number?]
  | _ => simp [sameKey]

lemma sameKey_text_text (name option : String) :
    (text option).sameKey (.text name) = decide (name = option) := by
  rw [Bool.eq_iff_iff, sameKey_text_iff, decide_eq_true_eq]
  simp [eq_comm]

lemma entry?_cons (name : String) (entry : Setting × Setting) (entries : List (Setting × Setting)) :
    entry? name (entry :: entries) =
      if entry.1.sameKey (.text name) then some entry.2 else entry? name entries := by
  rw [Setting.entry?, List.find?_cons]
  split <;> simp_all [Setting.entry?]

lemma entry?_eq_none_iff (name : String) (entries : List (Setting × Setting)) :
    entry? name entries = none ↔ (entries.any fun entry => entry.1.sameKey (.text name)) = false := by
  simp [Setting.entry?]

/-- The value of an entry that is there is replaced where it stands. -/
lemma entry?_replace (entries : List (Setting × Setting)) (option name : String) (value : Setting) :
    entry? name (entries.map fun entry =>
        if entry.1.sameKey (.text option) then (entry.1, value) else entry) =
      (Setting.entry? name entries).map fun found => if name = option then value else found := by
  induction entries with
  | nil => rfl
  | cons entry entries ih =>
      rw [List.map_cons, entry?_cons, entry?_cons, ih]
      by_cases hsame : entry.1.sameKey (.text option) = true
      · have hkey := (sameKey_text_iff _ _).mp hsame
        by_cases hname : name = option <;> simp [hkey, sameKey_text_text, hname]
      · by_cases hname : name = option
        · subst hname
          simp [hsame]
        · cases hfound : entry.1.sameKey (.text name) <;> simp [hsame, hname, hfound]

/-- **Setting an entry** changes that entry and no other. -/
lemma entry?_put (entries : List (Setting × Setting)) (option name : String) (value : Setting) :
    entry? name (put entries (.text option) value) =
      if name = option then some value else entry? name entries := by
  unfold put
  split_ifs with hthere hname hname
  · subst hname
    obtain ⟨found, hfound⟩ : ∃ found, entry? name entries = some found :=
      Option.ne_none_iff_exists'.mp fun hnone => by simp [(entry?_eq_none_iff _ _).mp hnone] at hthere
    rw [entry?_replace, hfound, Option.map_some, if_pos rfl]
  · rw [entry?_replace]
    simp [hname]
  · subst hname
    have hnone := (entry?_eq_none_iff name entries).mpr (by simpa using hthere)
    simp only [Setting.entry?, Option.map_eq_none_iff] at hnone
    simp [Setting.entry?, hnone, sameKey_text_text]
  · simp [Setting.entry?, List.find?_append, sameKey_text_text, hname]

/-! ## Opening a mapping -/

/-- A mapping that counts as false has no entries. -/
lemma eq_nil_of_entries? {value : Setting} {entries : List (Setting × Setting)} (hvoid : value.isTruthy = false)
    (hentries : value.entries? = some entries) : entries = [] := by
  cases value with
  | map given =>
      have hgiven : given = [] := by simpa [isTruthy] using hvoid
      subst hgiven
      simpa [entries?, fillEntries] using hentries.symm
  | _ => simp [entries?] at hentries

lemma member?_nil (name : String) : (Setting.map []).member? name = none := by
  simp [member?, Setting.entry?]

/-! ## Equality -/

mutual

/-- Are the values equal in all their parts? -/
def same : Setting → Setting → Bool
  | .scalar a, .scalar b => a == b
  | .list items, .list items' | .set items, .set items' => sameItems items items'
  | .map entries, .map entries' => sameEntries entries entries'
  | .within inner, .within inner' => inner == inner'
  | _, _ => false

/-- Are the values equal one by one? -/
def sameItems : List Setting → List Setting → Bool
  | [], [] => true
  | item :: items, item' :: items' => same item item' && sameItems items items'
  | _, _ => false

/-- Are the entries equal one by one? -/
def sameEntries : List (Setting × Setting) → List (Setting × Setting) → Bool
  | [], [] => true
  | (key, value) :: entries, (key', value') :: entries' =>
    same key key' && same value value' && sameEntries entries entries'
  | _, _ => false

end

mutual

lemma same_iff : (a b : Setting) → (same a b = true ↔ a = b)
  | .scalar a, b => by cases b <;> simp [same]
  | .list items, b => by cases b <;> simp [same, sameItems_iff]
  | .set items, b => by cases b <;> simp [same, sameItems_iff]
  | .map entries, b => by cases b <;> simp [same, sameEntries_iff]
  | .within inner, b => by cases b <;> simp [same]

lemma sameItems_iff : (items items' : List Setting) → (sameItems items items' = true ↔ items = items')
  | [], items' => by cases items' <;> simp [sameItems]
  | item :: items, items' => by cases items' <;> simp [sameItems, same_iff item, sameItems_iff items]

lemma sameEntries_iff : (entries entries' : List (Setting × Setting)) →
    (sameEntries entries entries' = true ↔ entries = entries')
  | [], entries' => by cases entries' <;> simp [sameEntries]
  | (key, value) :: entries, entries' => by
      cases entries' <;> simp [sameEntries, same_iff key, same_iff value, sameEntries_iff entries, Prod.ext_iff]

end

instance : DecidableEq Setting := fun a b => decidable_of_iff _ (same_iff a b)

end Setting

deriving instance DecidableEq for Config

end PrimeReasoner
