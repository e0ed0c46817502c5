import PrimeReasoner.ConfigFile
import PrimeReasoner.Proofs.Setting
import PrimeReasoner.Yaml.Document

/-!
# Loading a configuration is all or nothing

A configuration file sets options in two sections, one entry after the other.  The table of what has been set
grows as it is read, and the fault that spoils the file may come at the very end.

**What a document says.**  `ConfigFile.HasOptions` lists the options of a section, `ConfigFile.SetsOptions`
those of a document, and `Config.overridden` is the configuration in which the last value of an option counts.

**The invariant.**  A table shows of each option the value that was given last, and nothing of other names
(`ConfigFile.Shows`).  One entry keeps it, be it of an option (`ConfigFile.Shows.put`) or of another name
(`ConfigFile.Shows.skip`), so a section does (`ConfigFile.Shows.applyEntries`) and a document does
(`ConfigFile.ofDocument_of_setsOptions`).

**Faults.**  A document that does not set options is refused (`ConfigFile.exists_fault`), and then all that the
table held is dropped, as the defaults are taken instead (`load_all_or_nothing`).

**Where loading breaks off.**  In the end the configuration is written out.  That fails for a value without end
and for an integer of very many digits, although such a file has no fault (`load_breaks_off`).
-/

namespace PrimeReasoner

/-! ## What a document says -/

/-- Options by name, as the entries of a mapping. -/
def named (options : List (String × Setting)) : List (Setting × Setting) :=
  options.map fun option => (.text option.1, option.2)

/-- The value that is given last under a name. -/
def lastValue? (options : List (String × Setting)) (name : String) : Option Setting :=
  options.reverse.lookup name

lemma lastValue?_concat (options : List (String × Setting)) (option name : String) (value : Setting) :
    lastValue? (options ++ [(option, value)]) name =
      if name = option then some value else lastValue? options name := by
  rw [lastValue?, List.reverse_append, List.reverse_singleton, List.singleton_append, List.lookup_cons]
  by_cases hname : name = option
  · simp [hname]
  · simp [lastValue?, beq_eq_false_iff_ne.mpr hname, hname]

/-- The configuration in which the last value of each option counts, and its default if it is not given. -/
def Config.overridden (options : List (String × Setting)) : Config where
  sieveLimit := (lastValue? options "sieve_limit").getD ({} : Config).sieveLimit
  maxDepth := (lastValue? options "max_depth").getD ({} : Config).maxDepth

/-- Can the values of all options be written out on the machine? -/
def Config.IsWritable (machine : Machine) (config : Config) : Prop :=
  ∀ value ∈ [config.sieveLimit, config.maxDepth],
    value.isDeeper machine.nesting = false ∧ value.isUnwritable = false

instance (machine : Machine) (config : Config) : Decidable (config.IsWritable machine) :=
  inferInstanceAs (Decidable (∀ value ∈ [config.sieveLimit, config.maxDepth], _ ∧ _))

lemma Config.isWritable_iff {machine : Machine} {config : Config} : config.IsWritable machine ↔
    (config.sieveLimit.isDeeper machine.nesting || config.maxDepth.isDeeper machine.nesting) = false ∧
      (config.sieveLimit.isUnwritable || config.maxDepth.isUnwritable) = false := by
  simp only [IsWritable, List.forall_mem_cons, List.not_mem_nil, false_implies, implies_true, and_true,
    Bool.or_eq_false_iff]
  exact and_and_and_comm

/-- The defaults can be written out on any machine. -/
lemma Config.isWritable_overridden_nil (machine : Machine) : (Config.overridden []).IsWritable machine := by
  have hwritten : ∀ value ∈ [(Config.overridden []).sieveLimit, (Config.overridden []).maxDepth],
      value.isUnwritable = false := by decide +kernel
  intro value hvalue
  refine ⟨?_, hwritten value hvalue⟩
  obtain rfl | rfl := by simpa using hvalue
  · rfl
  · rfl

namespace ConfigFile

/-- **The options of a section**: none if it is missing, or empty, false or zero. -/
inductive HasOptions (document : Setting) (name : String) : List (String × Setting) → Prop where
  | missing (hnone : document.member? name = none) : HasOptions document name []
  | void {value : Setting} (hfound : document.member? name = some value)
      (hvoid : value.isTruthy = false) : HasOptions document name []
  | given {value : Setting} {options : List (String × Setting)} (hfound : document.member? name = some value)
      (hentries : value.entries? = some (named options)) : HasOptions document name options

/-- **The options of a document**, those of its first section in front of those of its second one. -/
inductive SetsOptions : Setting → List (String × Setting) → Prop where
  | intro {entries : List (Setting × Setting)} {encoding reasoning : List (String × Setting)}
      (hencoding : HasOptions (.map entries) "encoding" encoding)
      (hreasoning : HasOptions (.map entries) "reasoning" reasoning) :
      SetsOptions (.map entries) (encoding ++ reasoning)

/-- Does the name start with two underscores? -/
def isReserved (name : String) : Bool := ['_', '_'].isPrefixOf name.toList

lemma isReserved_of_mem : ∀ name ∈ reservedNames, isReserved name = true := by decide

/-! ## What is set -/

variable {table : Table} {document : Setting} {options : List (String × Setting)}

/-- **The invariant**: a table shows of each option the last value given, and nothing of other names. -/
def Shows (table : Table) (options : List (String × Setting)) : Prop :=
  ∀ name, Setting.entry? name table = if name ∈ Config.names then lastValue? options name else none

lemma shows_nil : Shows [] [] := fun name => by simp [Setting.entry?, lastValue?]

/-- Only options can be set, reserved names apart. -/
lemma Shows.isKnown_iff (h : Shows table options) {name : String} (hname : isReserved name = false) :
    isKnown table name = true ↔ name ∈ Config.names := by
  have hnot : name ∉ reservedNames := fun hmem => by simp [isReserved_of_mem name hmem] at hname
  rw [isKnown, h name]
  by_cases hoption : name ∈ Config.names <;> simp [hoption, hnot]

lemma Shows.put (h : Shows table options) {option : String} (hoption : option ∈ Config.names)
    (value : Setting) : Shows (Setting.put table (.text option) value) (options ++ [(option, value)]) := by
  intro name
  rw [Setting.entry?_put, lastValue?_concat, h name]
  by_cases hname : name = option
  · subst hname
    simp [hoption]
  · simp [hname]

lemma Shows.skip (h : Shows table options) {option : String} (hoption : option ∉ Config.names)
    (value : Setting) : Shows table (options ++ [(option, value)]) := by
  intro name
  rw [h name, lastValue?_concat]
  by_cases hname : name = option
  · subst hname
    simp [hoption]
  · simp [hname]

/-- An option is set like any entry. -/
lemma set_of_mem_names {option : String} (hoption : option ∈ Config.names) (value : Setting) :
    set table option value = .ok (Setting.put table (.text option) value) := by
  have hfixed : ∀ name ∈ Config.names, name ∉ fixedNames ∧ name ≠ tableName := by decide
  obtain ⟨hnot, hne⟩ := hfixed option hoption
  simp [set, hnot, hne]

lemma applyEntries_set (heading : String) (log : List LogEntry) {option : String} {value : Setting} {later : Table}
    (hknown : isKnown table option = true) (hset : set table option value = .ok later) :
    applyEntries heading table log (named ((option, value) :: options)) =
      applyEntries heading later log (named options) := by
  simp only [named, List.map_cons, applyEntries, hknown, hset, if_true]

lemma applyEntries_ignored (heading : String) (log : List LogEntry) {option : String} (value : Setting)
    (hunknown : isKnown table option = false) :
    applyEntries heading table log (named ((option, value) :: options)) =
      applyEntries heading table (log ++ [ignored heading option]) (named options) := by
  simp only [named, List.map_cons, applyEntries, hunknown, Bool.false_eq_true, if_false]

/-- **The entries of a section** are taken over one after the other. -/
lemma Shows.applyEntries (heading : String) (log : List LogEntry) {before : List (String × Setting)}
    (h : Shows table before) (hplain : ∀ option ∈ options, isReserved option.1 = false) :
    ∃ later log', ConfigFile.applyEntries heading table log (named options) = (.ok later, log') ∧
      Shows later (before ++ options) := by
  induction options generalizing table log before with
  | nil => exact ⟨table, log, rfl, by simpa using h⟩
  | cons option options ih =>
      obtain ⟨name, value⟩ := option
      have hrest : ∀ option ∈ options, isReserved option.1 = false :=
        fun option hmem => hplain option (List.mem_cons_of_mem _ hmem)
      have hknown := h.isKnown_iff (hplain (name, value) List.mem_cons_self)
      rw [List.append_cons before]
      by_cases hoption : name ∈ Config.names
      · rw [applyEntries_set heading log (hknown.mpr hoption) (set_of_mem_names hoption value)]
        exact ih log (h.put hoption value) hrest
      · have hunknown : isKnown table name = false :=
          Bool.eq_false_iff.mpr fun hset => hoption (hknown.mp hset)
        rw [applyEntries_ignored heading log value hunknown]
        exact ih _ (h.skip hoption value) hrest

/-- Reading a section gives its options, if it has any. -/
lemma section?_eq_ok_iff {name : String} : section? document name = .ok (named options) ↔
    HasOptions document name options := by
  constructor
  · intro hsection
    unfold section? at hsection
    cases hfound : document.member? name with
    | none =>
        simp only [hfound, Except.ok.injEq] at hsection
        obtain rfl := List.map_eq_nil_iff.mp hsection.symm
        exact .missing hfound
    | some value =>
        simp only [hfound] at hsection
        split_ifs at hsection with htruthy
        · split at hsection
          · next hentries => exact .given hfound (by rw [hentries, Except.ok.inj hsection])
          · cases hsection
        · obtain rfl := List.map_eq_nil_iff.mp (Except.ok.inj hsection).symm
          exact .void hfound (by simpa using htruthy)
  · intro h
    unfold section?
    cases h with
    | missing hnone => rw [hnone]; rfl
    | void hfound hvoid => simp [hfound, hvoid, named]
    | @given value _ hfound hentries =>
        simp only [hfound, hentries]
        split_ifs with htruthy
        · rfl
        · obtain rfl := List.map_eq_nil_iff.mp (Setting.eq_nil_of_entries? (by simpa using htruthy) hentries)
          rfl

/-- An empty document has no options. -/
lemma HasOptions.eq_nil {name : String} (h : HasOptions (.map []) name options) : options = [] := by
  cases h with
  | missing => rfl
  | void => rfl
  | given hfound => simp [Setting.member?_nil] at hfound

/-- **A document that sets options** is taken over as a whole. -/
lemma ofDocument_of_setsOptions {value : Setting} (h : SetsOptions value options)
    (hplain : ∀ option ∈ options, isReserved option.1 = false) :
    ∃ table log, ofDocument value = (.ok table, log) ∧ Shows table options := by
  obtain @⟨entries, encoding, reasoning, hencoding, hreasoning⟩ := h
  cases entries with
  | nil =>
      rw [hencoding.eq_nil, hreasoning.eq_nil]
      exact ⟨[], [], rfl, shows_nil⟩
  | cons entry entries =>
      obtain ⟨first, log, hfirst, hshows⟩ := shows_nil.applyEntries "encoding" []
        fun option (hmem : option ∈ encoding) => hplain option (List.mem_append_left _ hmem)
      obtain ⟨second, log', hsecond, hshows'⟩ := hshows.applyEntries "reasoning" log
        fun option (hmem : option ∈ reasoning) => hplain option (List.mem_append_right _ hmem)
      refine ⟨second, log', ?_, by simpa using hshows'⟩
      have hof : ofDocument (.map (entry :: entries)) =
          applySections (.map (entry :: entries)) [] [] sections := rfl
      have hread := section?_eq_ok_iff.mpr hencoding
      have hread' := section?_eq_ok_iff.mpr hreasoning
      simp only [hof, sections, applySections, hread, hfirst, hread', hsecond]

/-! ## Faults -/

/-- A section with a key that is not a text has a fault, if none is found before. -/
lemma exists_fault_applyEntries (heading : String) (table : Table) (log : List LogEntry)
    {entries : List (Setting × Setting)} (hbad : ¬ ∃ options, entries = named options) :
    ∃ fault log', ConfigFile.applyEntries heading table log entries = (.error fault, log') := by
  induction entries generalizing table log with
  | nil => exact absurd ⟨[], rfl⟩ hbad
  | cons entry entries ih =>
      obtain ⟨key, value⟩ := entry
      unfold ConfigFile.applyEntries
      split
      · next heq => cases heq
      · next option value' entries' heq =>
        obtain ⟨⟨rfl, rfl⟩, rfl⟩ :
            ((.text option : Setting) = key ∧ value' = value) ∧ entries' = entries := by
          simpa [eq_comm] using heq
        have hrest : ¬ ∃ options, entries' = named options := by
          rintro ⟨options, rfl⟩
          exact hbad ⟨(option, value') :: options, rfl⟩
        split_ifs
        · cases set table option value' with
          | error fault => exact ⟨fault, log, rfl⟩
          | ok later => exact ih later log hrest
        · exact ih table _ hrest
      · exact ⟨_, log, rfl⟩

/-- **A section without options** is one with a fault. -/
lemma exists_fault_applySections {name : String} (hnone : ¬ ∃ options, HasOptions document name options)
    (table : Table) (log : List LogEntry) (names : List String) :
    ∃ fault log', applySections document table log (name :: names) = (.error fault, log') := by
  rw [applySections]
  cases hsection : section? document name with
  | error fault => exact ⟨fault, log, rfl⟩
  | ok entries =>
      have hbad : ¬ ∃ options, entries = named options := by
        rintro ⟨options, rfl⟩
        exact hnone ⟨options, section?_eq_ok_iff.mp hsection⟩
      obtain ⟨fault, log', hfault⟩ := exists_fault_applyEntries name table log hbad
      exact ⟨fault, log', by simp only [hfault]⟩

/-- **A document that does not set options** is refused, unless it is empty, false or zero. -/
lemma exists_fault {value : Setting} (htruthy : value.isTruthy = true)
    (hnone : ¬ ∃ options, SetsOptions value options) :
    ∃ fault log, ofDocument value = (.error fault, log) := by
  cases value with
  | map entries =>
      have hof : ofDocument (.map entries) = applySections (.map entries) [] [] sections := by
        unfold ofDocument
        rw [if_pos htruthy]
      rw [hof, sections]
      by_cases hencoding : ∃ options, HasOptions (.map entries) "encoding" options
      · obtain ⟨encoding, hencoding⟩ := hencoding
        have hreasoning : ¬ ∃ options, HasOptions (.map entries) "reasoning" options :=
          fun ⟨reasoning, hreasoning⟩ => hnone ⟨_, .intro hencoding hreasoning⟩
        -- the first section may have a fault as well, at a reserved name
        rw [applySections, section?_eq_ok_iff.mpr hencoding]
        rcases happly : ConfigFile.applyEntries "encoding" [] [] (named encoding) with ⟨fault | first, log⟩
        · exact ⟨fault, log, by simp only [happly]⟩
        · simp only [happly]
          exact exists_fault_applySections hreasoning first log []
      · exact exists_fault_applySections hencoding [] [] _
  | _ => exact ⟨.notAMapping, [], by unfold ofDocument; rw [if_pos htruthy]⟩

/-! ## Loading -/

lemma Shows.ofEntries (h : Shows table options) : Config.ofEntries table = Config.overridden options := by
  have hsieve := h "sieve_limit"
  have hdepth := h "max_depth"
  rw [if_pos (by decide)] at hsieve hdepth
  rw [Config.ofEntries, hsieve, hdepth, Config.overridden]

/-- **The options are looked through**, which succeeds if they can be written out. -/
lemma Shows.inspect (machine : Machine) (h : Shows table options) :
    ((Config.overridden options).IsWritable machine → inspect machine table = .ok (Config.overridden options)) ∧
      (¬ (Config.overridden options).IsWritable machine → ∃ error, inspect machine table = .error error) := by
  have hnone : Setting.entry? optionsName table = none := by
    rw [h optionsName, if_neg (by decide)]
  unfold ConfigFile.inspect
  simp only [h.ofEntries, hnone, Config.isWritable_iff]
  split_ifs with hdeep hunwritable
  · exact ⟨fun hwritable => absurd hdeep (Bool.eq_false_iff.mp hwritable.1), fun _ => ⟨_, rfl⟩⟩
  · exact ⟨fun hwritable => absurd hunwritable (Bool.eq_false_iff.mp hwritable.2), fun _ => ⟨_, rfl⟩⟩
  · exact ⟨fun _ => rfl,
      fun hnot => absurd ⟨Bool.eq_false_iff.mpr hdeep, Bool.eq_false_iff.mpr hunwritable⟩ hnot⟩

section Load

variable {machine : Machine} {parse : String → Option Setting} {files : String → Except FileError String}
variable {path text : String} {log : List LogEntry}

lemma load_fst_of_ok (hpath : path ≠ "") (hfile : files path = .ok text)
    (hset : ofText parse text = (.ok table, log)) :
    (load machine parse files (some path)).1 = inspect machine table := by
  simp only [load, hfile, hset]

lemma load_fst_of_fault {fault : Fault} (hpath : path ≠ "") (hfile : files path = .ok text)
    (hfault : ofText parse text = (.error fault, log)) : (load machine parse files (some path)).1 = .ok {} := by
  simp only [load, hfile, hfault]

lemma load_fst_of_unreadable {error : FileError} (hpath : path ≠ "") (hfile : files path = .error error)
    (hpresent : error.isPresent = true) : (load machine parse files (some path)).1 = .ok {} := by
  simp only [load, hfile, hpresent, if_true]

end Load

/-- **Loading an existing file is all or nothing**, whatever notation its text is in.  A file that cannot be read,
is no document, or is a document that neither sets options nor is empty, false or zero, leaves all options at their
defaults, whatever it had set before its fault.  A document that sets options, none under a reserved name, gives each
option the value that stands last, unchecked, and the default if there is none, as long as these values can be
written out; if they cannot, there is no configuration at all. -/
theorem load_all_or_nothing (machine : Machine) (parse : String → Option Setting)
    (files : String → Except FileError String) (path : String) (hpath : path ≠ "") :
    (∀ error, files path = .error error → error.isPresent = true →
      (load machine parse files (some path)).1 = .ok {}) ∧
      ∀ text, files path = .ok text →
        (parse (Text.unifyLineEnds text) = none → (load machine parse files (some path)).1 = .ok {}) ∧
        ∀ document, parse (Text.unifyLineEnds text) = some document →
          (document.isTruthy = false → (load machine parse files (some path)).1 = .ok {}) ∧
          (∀ options, SetsOptions document options → (∀ option ∈ options, isReserved option.1 = false) →
            ((Config.overridden options).IsWritable machine →
              (load machine parse files (some path)).1 = .ok (Config.overridden options)) ∧
            (¬ (Config.overridden options).IsWritable machine →
              ∃ error, (load machine parse files (some path)).1 = .error error)) ∧
          (document.isTruthy = true → (¬ ∃ options, SetsOptions document options) →
            (load machine parse files (some path)).1 = .ok {}) := by
  refine ⟨fun error hfile hpresent => load_fst_of_unreadable hpath hfile hpresent, fun text hfile =>
    ⟨fun hread => ?_, fun document hread => ?_⟩⟩
  · have hfault : ofText parse text = (.error .malformed, []) := by rw [ofText, hread]
    exact load_fst_of_fault hpath hfile hfault
  · have hof : ofText parse text = ofDocument document := by rw [ofText, hread]
    refine ⟨fun hvoid => ?_, fun options hoptions hplain => ?_, fun htruthy hnone => ?_⟩
    · have hempty : ofText parse text = (.ok [], []) := by
        rw [hof]
        unfold ofDocument
        rw [hvoid, if_neg Bool.false_ne_true]
      rw [load_fst_of_ok hpath hfile hempty]
      exact (shows_nil.inspect machine).1 (Config.isWritable_overridden_nil machine)
    · obtain ⟨table, log, hset, hshows⟩ := ofDocument_of_setsOptions hoptions hplain
      rw [load_fst_of_ok hpath hfile (hof.trans hset)]
      exact hshows.inspect machine
    · obtain ⟨fault, log, hfault⟩ := exists_fault htruthy hnone
      exact load_fst_of_fault hpath hfile (hof.trans hfault)

/-- The file with the given text, at whatever path. -/
def everywhere (text : String) : String → Except FileError String := fun _ => .ok text

/-- What a text in the common notation says. -/
def documentOf (text : String) : Option Setting := Yaml.document? Yaml.usualDepth text

/-- Loads a text in the common notation. -/
def loadText (text : String) : Except LoadError Config :=
  (load .usual documentOf (everywhere text) (some "ellm.yaml")).1

/-- A document that gives one option twice, and another one of an unknown name. -/
def overridingText : String := "encoding: {sieve_limit: 7, max_depth: 2, x: 1}\nreasoning: {max_depth: 3}\n"

/-- What the text says. -/
def overridingEntries : List (Setting × Setting) :=
  [(.text "encoding", .map (named [("sieve_limit", .int 7), ("max_depth", .int 2), ("x", .int 1)])),
    (.text "reasoning", .map (named [("max_depth", .int 3)]))]

/-- A document whose second section is no mapping. -/
def spoiltText : String := "encoding: {sieve_limit: 7}\nreasoning: deep\n"

/-- What the spoilt text says. -/
def spoiltEntries : List (Setting × Setting) :=
  [(.text "encoding", .map (named [("sieve_limit", .int 7)])), (.text "reasoning", .text "deep")]

/-- A document that takes over the entries of a mapping, which is itself one of them. -/
def nestedText : String := "<<: &a \x7bencoding: *a, sieve_limit: 5\x7d\nsieve_limit: 6\n"

/-- The mapping from which they are taken over. -/
def nestedSection : Setting := .map [(.text "encoding", .within 0), (.text "sieve_limit", .int 5)]

/-- What the document says. -/
def nestedEntries : List (Setting × Setting) :=
  [(.text "encoding", nestedSection), (.text "sieve_limit", .int 6)]

/-- A well-formed document whose only option has a value that holds itself. -/
def endlessText : String := "encoding: {sieve_limit: &a [*a]}\n"

/-- The options of that document. -/
def endlessOptions : List (String × Setting) := [("sieve_limit", .list [.within 0])]

/-- What that document says. -/
def endlessEntries : List (Setting × Setting) := [(.text "encoding", .map (named endlessOptions))]

lemma documentOf_endlessText : documentOf (Text.unifyLineEnds endlessText) = some (.map endlessEntries) := by
  decide +kernel

lemma setsOptions_endlessEntries : SetsOptions (.map endlessEntries) endlessOptions := by
  have hencoding : HasOptions (.map endlessEntries) "encoding" endlessOptions := .given rfl rfl
  have hsets : SetsOptions (.map endlessEntries) (endlessOptions ++ []) := .intro hencoding (.missing rfl)
  simpa using hsets

theorem load_sample_files :
    (load .usual documentOf (fun _ => .error .isAFolder) (some "config")).1 = .ok {} ∧
    loadText "encoding: [7\n" = .ok {} ∧ loadText "# none\n" = .ok {} ∧
    loadText overridingText = .ok { sieveLimit := .int 7, maxDepth := .int 3 } ∧
    loadText spoiltText = .ok {} ∧ loadText nestedText = .ok { sieveLimit := .int 5 } ∧
    ∃ error, loadText endlessText = .error error := by
  have hloaded := fun text =>
    (load_all_or_nothing .usual documentOf (everywhere text) "ellm.yaml" (by decide)).2 text rfl
  have hencoding : HasOptions (.map overridingEntries) "encoding"
      [("sieve_limit", .int 7), ("max_depth", .int 2), ("x", .int 1)] := .given rfl rfl
  have hreasoning : HasOptions (.map overridingEntries) "reasoning" [("max_depth", .int 3)] := .given rfl rfl
  have hnested : HasOptions (.map nestedEntries) "encoding"
      [("encoding", nestedSection), ("sieve_limit", .int 5)] := .given rfl rfl
  have hnone : ¬ ∃ options, SetsOptions (.map spoiltEntries) options := by
    rintro ⟨options, @⟨entries, encoding, reasoning, hencoding, hreasoning⟩⟩
    cases section?_eq_ok_iff.mpr hreasoning
  refine ⟨?_, ?_, ?_, ?_, ?_, ?_, ?_⟩
  · exact (load_all_or_nothing .usual documentOf (fun _ => .error .isAFolder) "config" (by decide)).1 _ rfl rfl
  · rw [loadText]
    exact (hloaded "encoding: [7\n").1 (by decide +kernel)
  · rw [loadText]
    exact ((hloaded "# none\n").2 .null (by decide +kernel)).1 rfl
  · obtain ⟨-, hoverridden, -⟩ := (hloaded overridingText).2 (.map overridingEntries) (by decide +kernel)
    rw [loadText]
    exact (hoverridden _ (.intro hencoding hreasoning) (by decide)).1 (by decide +kernel)
  · obtain ⟨-, -, hdropped⟩ := (hloaded spoiltText).2 (.map spoiltEntries) (by decide +kernel)
    rw [loadText]
    exact hdropped rfl hnone
  · obtain ⟨-, hoverridden, -⟩ := (hloaded nestedText).2 (.map nestedEntries) (by decide +kernel)
    rw [loadText]
    exact (hoverridden _ (.intro hnested (.missing rfl)) (by decide)).1 (by decide +kernel)
  · obtain ⟨-, hbroken, -⟩ := (hloaded endlessText).2 _ documentOf_endlessText
    rw [loadText]
    exact (hbroken _ setsOptions_endlessEntries (by decide)).2 (by decide +kernel)

/-- **A file without a fault can leave no configuration**: neither the value that it gives is taken over nor the
default, as the value cannot be written out. -/
theorem load_breaks_off :
    documentOf (Text.unifyLineEnds endlessText) = some (.map endlessEntries) ∧
    SetsOptions (.map endlessEntries) endlessOptions ∧
    (∀ option ∈ endlessOptions, isReserved option.1 = false) ∧
    loadText endlessText = .error .endless := by
  refine ⟨documentOf_endlessText, setsOptions_endlessEntries, by decide, ?_⟩
  have hfile : everywhere endlessText "ellm.yaml" = .ok endlessText := rfl
  have hset : ofText documentOf endlessText = (.ok (named endlessOptions), []) := by
    rw [ofText, documentOf_endlessText]
    rfl
  rw [loadText, load_fst_of_ok (by decide) hfile hset]
  rfl

end ConfigFile

end PrimeReasoner
