/-!
# Log entries

What the program reports about its own work, apart from its answers.
-/

namespace PrimeReasoner

/-- The weight of a log entry. -/
inductive Level where
  /-- For information. -/
  | info
  /-- Something is not as it should be, but the work goes on. -/
  | warning
  /-- Something failed. -/
  | error
deriving DecidableEq, Repr

/-- The level as a word. -/
def Level.text : Level → String
  | .info => "INFO"
  | .warning => "WARNING"
  | .error => "ERROR"

/-- A log entry. -/
structure LogEntry where
  /-- Its weight. -/
  level : Level
  /-- What it says. -/
  message : String
deriving DecidableEq, Repr

/-- The entry as a line. -/
def LogEntry.line (entry : LogEntry) : String := s!"{entry.level.text} {entry.message}"

end PrimeReasoner
