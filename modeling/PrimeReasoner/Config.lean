import PrimeReasoner.Machine
import PrimeReasoner.Number.Size
import PrimeReasoner.Setting

/-!
# Configuration of a session

A session has two options. They are stored as they were given and looked at only when they are
used: the bound of the sieve when a session starts, the depth limit when a goal is to be decided.

* `Config` holds the options, with their defaults.
* `Config.ofOptions` builds a configuration from named options, and refuses unknown names.
* `sieveBound` reads the bound of the sieve as an integer, given what the machine has room for.
-/

namespace PrimeReasoner

/-- The options of a session. -/
structure Config where
  /-- Up to where primes are sieved to begin with. -/
  sieveLimit : Setting := .int 1000
  /-- How deep a search may go; nothing stands for the default of the engine. -/
  maxDepth : Setting := .null

/-- Why a session cannot be started. -/
inductive ConfigError where
  /-- The bound of the sieve is of a kind that cannot be compared with a number. -/
  | incomparableLimit (kind : String)
  /-- The sieve would need this many places, which is no integer. -/
  | fractionalSize (places : Double)
  /-- The sieve would need more places than can be counted. -/
  | uncountableSize
  /-- The sieve would need this many places, for which there is no memory. -/
  | excessiveSize (places : Nat)
  /-- There is no option of this name. -/
  | unknownOption (name : String)
deriving DecidableEq, Repr

/-- The text of the error. -/
def ConfigError.message : ConfigError → String
  | .incomparableLimit kind => s!"'<' not supported between instances of '{kind}' and 'int'"
  | .fractionalSize places =>
    s!"expected a sequence of integers or a single integer, got '{places.text}'"
  | .uncountableSize => "Maximum allowed dimension exceeded"
  | .excessiveSize places =>
    s!"Unable to allocate {sizeText places} for an array with shape ({places},) and data type bool"
  | .unknownOption name => s!"unexpected option '{name}'"

namespace Config

/-- Sets the option of the given name, if there is one. -/
def set? (config : Config) (name : String) (value : Setting) : Option Config :=
  if name = "sieve_limit" then some { config with sieveLimit := value }
  else if name = "max_depth" then some { config with maxDepth := value }
  else none

/-- The names of the options. -/
def names : List String := ["sieve_limit", "max_depth"]

/-- The configuration with the given options set, in order. -/
def ofOptions : List (String × Setting) → Except ConfigError Config :=
  List.foldlM (fun config (name, value) =>
    match config.set? name value with
    | some config => .ok config
    | none => .error (.unknownOption name)) {}

/-- The configuration that a mapping from names to values gives; what it does not name has its
default. -/
def ofEntries (entries : List (Setting × Setting)) : Config where
  sieveLimit := (Setting.entry? "sieve_limit" entries).getD ({} : Config).sieveLimit
  maxDepth := (Setting.entry? "max_depth" entries).getD ({} : Config).maxDepth

end Config

/-- More places than any sieve can have are counted in 63 binary digits. -/
def countableSize : Nat := twoPower 63

/-- The bound of a sieve, if the places up to it can be had. -/
def boundedSieve (machine : Machine) (limit : Int) : Except ConfigError Int :=
  let places := limit.toNat + 1
  if countableSize ≤ places then .error .uncountableSize
  else if machine.memory ≤ places then .error (.excessiveSize places)
  else .ok limit

/-- The bound of the sieve. A number with a point is accepted only where it leaves nothing to sieve,
below two. -/
def sieveBound (machine : Machine) (limit : Setting) : Except ConfigError Int :=
  match limit.number? with
  | some (.whole n) => boundedSieve machine n
  | some (.double x) =>
    if x.isBelow 2 then .ok (x.floor?.getD 0) else .error (.fractionalSize (x.add (.ofInt 1)))
  | none => .error (.incomparableLimit limit.kindName)

end PrimeReasoner
