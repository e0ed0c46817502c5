import PrimeReasoner.ConfigFile
import PrimeReasoner.Session

/-!
# What a program does to the outside

A program prints, writes log entries and may start the service; it may also break off. All of this
is kept as data: `Script` is a computation with a `Transcript` that breaks off with a `Failure`.

The steps that the commands share are here as well: opening a session, learning and deciding, each
with the log entries that go with it.
-/

namespace PrimeReasoner.CommandLine

/-- How the service is started. What was asked for without a value is passed on without one. -/
structure Launch where
  /-- The address to listen at. -/
  host : Option String
  /-- The port to listen at. -/
  port : Option Int
  /-- Whether to start over when the program changes. -/
  reload : Bool
  /-- The number of processes. -/
  workers : Option Int
  /-- The least level of log entries of the service. -/
  logLevel : Option String
  /-- The options of the session behind the service. -/
  config : Config

/-- What a program has done so far. -/
structure Transcript where
  /-- What it has printed. -/
  out : String := ""
  /-- Its log entries. -/
  log : List LogEntry := []
  /-- The service, if it was started. -/
  launch : Option Launch := none

/-- Why a program breaks off. -/
inductive Failure where
  /-- Something went wrong; the text says what. -/
  | failed (message : String)
  /-- The user stopped it. -/
  | interrupted
deriving DecidableEq, Repr

/-- What a program does. What was done before it breaks off stays. -/
abbrev Script := ExceptT Failure (StateM Transcript)

/-- What a program finds outside. -/
structure Surroundings where
  /-- What the machine has room for. -/
  machine : Machine
  /-- Which document a text is, if it is one. -/
  parse : String → Option Setting
  /-- What the files hold, by their names. -/
  files : String → Except FileError String := ({} : Folder).read
  /-- How the service ends, if not by itself. -/
  serviceEnd : Option Failure := none

namespace Script

/-- Prints a text. -/
def print (text : String) : Script Unit := modify fun transcript =>
  { transcript with out := transcript.out ++ text }

/-- Prints a line. -/
def printLine (text : String) : Script Unit := print (text ++ "\n")

/-- Prints several lines. -/
def printLines (lines : List String) : Script Unit := print (String.join (lines.map (· ++ "\n")))

/-- Writes log entries. -/
def note (entries : List LogEntry) : Script Unit := modify fun transcript =>
  { transcript with log := transcript.log ++ entries }

/-- Writes a log entry for information. -/
def info (message : String) : Script Unit := note [⟨.info, message⟩]

/-- Opens a session with the options of a configuration file. -/
def openSession (surroundings : Surroundings) (path : Option String) : Script Session := do
  let (config, log) := ConfigFile.load surroundings.machine surroundings.parse surroundings.files path
  note log
  match config with
  | .error error => throw (.failed error.message)
  | .ok config =>
    match Session.ofConfig surroundings.machine config with
    | .ok session => return session
    | .error error => throw (.failed error.message)

/-- Learns from a text. -/
def learn (session : Session) (text : String) : Script (List Lesson × Session) := do
  match session.learn text with
  | (.ok lessons, session) =>
    info s!"Learned from {lessons.length} sentence(s)"
    return (lessons, session)
  | (.error error, _) => throw (.failed error.message)

/-- Starts a session over. -/
def reset (session : Session) : Script Session := do
  info "Resetting session"
  return session.reset

/-- The log entries that go with deciding a goal. -/
def decisionLog (goal : Fact) : Except DeductionError Verdict → List LogEntry
  | .ok (.refused .outOfLevels) =>
    [⟨.warning, s!"Interpreter recursion limit reached deducing '{goal.text}'"⟩]
  | .ok _ => []
  | .error error => [⟨.error, s!"Deduction failed for '{goal.text}': {error.cause}"⟩]

/-- Decides a goal. -/
def deduce (session : Session) (goal : Fact) : Script (Verdict × Session) := do
  let (result, session) := session.deduce goal
  note (decisionLog goal result)
  match result with
  | .ok verdict => return (verdict, session)
  | .error error => throw (.failed error.message)

/-- The log entries that go with answering a question. -/
def answerLog (question : String) (result : Except DeductionError Answer) : List LogEntry :=
  match Sentence.question? question.toList with
  | none => []
  | some goal =>
    match result with
    | .ok answer => (answer.verdict.map fun verdict => decisionLog goal (.ok verdict)).getD []
    | .error error => decisionLog goal (.error error)

/-- Answers a question. -/
def ask (session : Session) (question : String) : Script (Answer × Session) := do
  let (result, session) := session.ask question
  note (answerLog question result)
  match result with
  | .ok answer => return (answer, session)
  | .error error => throw (.failed error.message)

end Script

/-- The lines that show an answer. -/
def answerLines (answer : Answer) : List String := [
  "Answer: " ++ answer.reply.text,
  "Parsed: " ++ answer.goalText.getD "Could not parse",
  "Explanation: " ++ answer.explanation]

/-- Knowledge to try the program with. -/
def sampleKnowledge : String := "\n".intercalate [
  "All humans are mortal.",
  "Socrates is human.",
  "All birds can fly.",
  "Penguins are birds.",
  "Penguins cannot fly.",
  "The engine is part of the car.",
  "The car is part of the transportation system.",
  "Alice likes mathematics.",
  "Bob teaches mathematics.",
  "If Bob teaches mathematics and Alice likes mathematics, then Alice likes Bob."]

end PrimeReasoner.CommandLine
