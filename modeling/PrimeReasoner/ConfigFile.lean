import PrimeReasoner.Config
import PrimeReasoner.Folder
import PrimeReasoner.Log
import PrimeReasoner.Text.Lines

/-!
# Configuration files

A configuration file is a document with the sections `encoding` and `reasoning`. Either section may
set either option; the later one wins. Loading is all or nothing: if anything is wrong with the
file, all options have their defaults, also those that were set before the fault was found. Options
of unknown names are reported and skipped.

Some names that are no options are accepted all the same (`reservedNames`). Most of them have no effect.
Two of them cannot be set; one gives a new table of options to go on with; and one tells what the options
are when they are looked through after loading, which then breaks off.

* `section?` reads a section, `applyEntries` takes over its entries.
* `ofDocument` takes over both sections of a document.
* `load` reads a file on a machine, given how a text is read as a document, and what the files hold.

Nothing is said here about the notation of documents: `parse` gives the document of a text, if it is one.
-/

namespace PrimeReasoner.ConfigFile

/-- Why a file cannot be used. -/
inductive Fault where
  /-- The file cannot be read. -/
  | unreadable
  /-- The text is not a document. -/
  | malformed
  /-- The document is not a mapping. -/
  | notAMapping
  /-- A section is not a mapping. -/
  | badSection (name : String)
  /-- The name of an option is not a text. -/
  | badOption (name : String)
  /-- A reserved name cannot be given the value. -/
  | badValue (option : String)
deriving DecidableEq, Repr

/-- The fault in words. -/
def Fault.text : Fault → String
  | .unreadable => "the file cannot be read"
  | .malformed => "the text is not a well-formed document"
  | .notAMapping => "the document is not a mapping"
  | .badSection name => s!"the section {name} is not a mapping"
  | .badOption name => s!"the section {name} has an option whose name is not a text"
  | .badValue option => s!"the name {option} cannot be given this value"

/-- Why loading breaks off although the file can be used. -/
inductive LoadError where
  /-- What is given as the list of options is not a mapping. -/
  | noOptions (kind : String)
  /-- What is given as an option is not one. -/
  | noOption (kind : String)
  /-- The value of an option has no end, or none within the depth that can be looked through. -/
  | endless
  /-- The value of an option holds an integer of too many digits. -/
  | unwritable
deriving DecidableEq, Repr

/-- The error in words. -/
def LoadError.message : LoadError → String
  | .noOptions kind => s!"'{kind}' object has no attribute 'values'"
  | .noOption kind => s!"'{kind}' object has no attribute '_field_type'"
  | .endless => "maximum recursion depth exceeded"
  | .unwritable =>
    s!"Exceeds the limit ({Numeral.maxDigits} digits) for integer string conversion; " ++
      "use sys.set_int_max_str_digits() to increase the limit"

/-! ## Names -/

/-- The reserved name under which a new table of options is given. -/
def tableName : String := "__dict__"

/-- The reserved name that tells what the options are. -/
def optionsName : String := "__dataclass_fields__"

/-- The reserved names that cannot be set. -/
def fixedNames : List String := ["__class__", "__weakref__"]

/-- The names that are accepted besides those of options. -/
def reservedNames : List String := [
  tableName, optionsName, "__annotations__", "__dataclass_params__", "__delattr__", "__dir__",
  "__doc__", "__eq__", "__format__", "__ge__", "__getattribute__", "__getstate__", "__gt__",
  "__hash__", "__init__", "__init_subclass__", "__le__", "__lt__", "__match_args__", "__module__",
  "__ne__", "__new__", "__reduce__", "__reduce_ex__", "__repr__", "__setattr__", "__sizeof__",
  "__str__", "__subclasshook__"] ++ fixedNames

/-- What has been set so far, by name. -/
abbrev Table := List (Setting × Setting)

/-- Can the name be set? -/
def isKnown (table : Table) (name : String) : Bool :=
  Config.names.contains name || reservedNames.contains name || (Setting.entry? name table).isSome

/-- Sets a known name. -/
def set (table : Table) (name : String) (value : Setting) : Except Fault Table :=
  if fixedNames.contains name then .error (.badValue name)
  else if name = tableName then
    match value.entries? with
    | some entries => .ok entries
    | none => .error (.badValue name)
  else .ok (Setting.put table (.text name) value)

/-! ## Sections -/

/-- The entries of a section; a section that is missing, empty, false or zero has none. -/
def section? (document : Setting) (name : String) : Except Fault (List (Setting × Setting)) :=
  match document.member? name with
  | none => .ok []
  | some value =>
    if value.isTruthy then
      match value.entries? with
      | some entries => .ok entries
      | none => .error (.badSection name)
    else .ok []

/-- The report on an option of an unknown name. -/
def ignored (name option : String) : LogEntry :=
  ⟨.warning, s!"Ignoring unknown {name} option: {option}"⟩

/-- Takes over the entries of a section, in order, with the reports so far. -/
def applyEntries (name : String) (table : Table) (log : List LogEntry) :
    List (Setting × Setting) → Except Fault Table × List LogEntry
  | [] => (.ok table, log)
  | (.scalar (.text option), value) :: entries =>
    if isKnown table option then
      match set table option value with
      | .ok table => applyEntries name table log entries
      | .error fault => (.error fault, log)
    else applyEntries name table (log ++ [ignored name option]) entries
  | _ :: _ => (.error (.badOption name), log)

/-- Takes over the sections of the given names, in order. -/
def applySections (document : Setting) (table : Table) (log : List LogEntry) :
    (names : List String) → Except Fault Table × List LogEntry
  | [] => (.ok table, log)
  | name :: names =>
    match section? document name with
    | .error fault => (.error fault, log)
    | .ok entries =>
      match applyEntries name table log entries with
      | (.ok table, log) => applySections document table log names
      | (.error fault, log) => (.error fault, log)

/-- The sections of a configuration file, in the order in which they are read. -/
def sections : List String := ["encoding", "reasoning"]

/-- What a document sets, with the reports on it. -/
def ofDocument (document : Setting) : Except Fault Table × List LogEntry :=
  if document.isTruthy then
    match document with
    | .map _ => applySections document [] [] sections
    | _ => (.error .notAMapping, [])
  else (.ok [], [])

/-- What the text of a file sets, with the reports on it. -/
def ofText (parse : String → Option Setting) (text : String) : Except Fault Table × List LogEntry :=
  match parse (Text.unifyLineEnds text) with
  | some document => ofDocument document
  | none => (.error .malformed, [])

/-! ## Loading -/

/-- Looks through the options that have been set. -/
def inspect (machine : Machine) (table : Table) : Except LoadError Config :=
  let config := Config.ofEntries table
  match Setting.entry? optionsName table with
  | none =>
    if config.sieveLimit.isDeeper machine.nesting || config.maxDepth.isDeeper machine.nesting then
      .error .endless
    else if config.sieveLimit.isUnwritable || config.maxDepth.isUnwritable then .error .unwritable
    else .ok config
  | some options =>
    match options.entries? with
    | some [] => .ok config
    | some ((_, value) :: _) => .error (.noOption value.kindName)
    | none => .error (.noOptions options.kindName)

/-- The report on a file that cannot be used. -/
def failed (path : String) (fault : Fault) : LogEntry :=
  ⟨.warning, s!"Failed to load configuration from {path}: {fault.text}"⟩

/-- Loads the file at the given path, if a path is given; `files` says what a file holds, and `parse` which
document a text is. -/
def load (machine : Machine) (parse : String → Option Setting) (files : String → Except FileError String)
    (path : Option String) : Except LoadError Config × List LogEntry :=
  match path with
  | none | some "" => (.ok {}, [])
  | some path =>
    match files path with
    | .error error =>
      if error.isPresent then (.ok {}, [failed path .unreadable])
      else (.ok {}, [⟨.warning, s!"Configuration file not found: {path}"⟩])
    | .ok text =>
      match ofText parse text with
      | (.ok table, log) => (inspect machine table, log)
      | (.error fault, log) => (.ok {}, log ++ [failed path fault])

end PrimeReasoner.ConfigFile
