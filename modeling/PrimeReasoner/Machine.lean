/-!
# Machines

How large a sieve may be, how far a search may descend and how deep a value may be nested depends on
the machine as well as on the configuration. Nothing is said here about how much room a machine has,
but that a search to the default depth fits.

* `Machine` says what a machine has room for.
* `Machine.usual` is one that is large enough for common use.
-/

namespace PrimeReasoner

/-- The depth limit of a search if none is configured. -/
def Engine.defaultDepth : Nat := 400

/-- What a machine has room for. -/
structure Machine where
  /-- A sieve of this many places does not fit into the memory. -/
  memory : Nat
  /-- How many levels a search may use at all, whatever depth is configured. -/
  levels : Nat
  /-- How deep the collections in the value of an option may be nested. -/
  nesting : Nat
  /-- A search to the default depth has room, with a level to spare. -/
  roomy : Engine.defaultDepth + 1 < levels

/-- A machine of common size. -/
def Machine.usual : Machine where
  memory := 64 * 1024 * 1024 * 1024
  levels := 480
  nesting := 490
  roomy := by decide

end PrimeReasoner
