import PrimeReasoner.CommandLine.Script

/-!
# The dialogue

In a dialogue the user enters one line after the other. A line is a command, a text to learn or a
question, told apart by how it starts or ends; letter case does not matter for that.

* `Request.read` says what a line asks for.
* `Dialogue.step` answers one line, and gives the session to go on with, or nothing at the end.
* `Dialogue.run` answers all lines that are entered.
-/

namespace PrimeReasoner.CommandLine

/-- Something that comes from the user. -/
inductive Entered where
  /-- A line. -/
  | line (text : String)
  /-- The wish to stop at once. -/
  | interrupt
deriving DecidableEq, Repr

/-- What a line asks for. -/
inductive Request where
  /-- To end the dialogue. -/
  | quit
  /-- To list the commands. -/
  | help
  /-- To learn from a text. -/
  | learn (text : String)
  /-- To list the facts. -/
  | facts
  /-- To list the rules. -/
  | rules
  /-- To start over with the sample knowledge. -/
  | sample
  /-- To start over. -/
  | reset
  /-- To show figures. -/
  | figures
  /-- To answer a question. -/
  | ask (question : String)
  /-- Nothing, as the line is blank. -/
  | nothing
  /-- Something unknown. -/
  | unknown
deriving DecidableEq, Repr

/-- What a line asks for. -/
def Request.read (line : String) : Request :=
  let entered := Text.trim line.toList
  let command := Text.lower entered
  let isWord (word : String) : Bool := command == word.toList
  let starts (start : String) : Bool := start.toList.isPrefixOf command
  if isWord "quit" || isWord "exit" || isWord "q" then .quit
  else if isWord "help" then .help
  else if starts "learn " then .learn (String.ofList (entered.drop 6))
  else if isWord "facts" then .facts
  else if isWord "rules" then .rules
  else if isWord "sample" then .sample
  else if isWord "reset" then .reset
  else if isWord "stats" then .figures
  else if starts "ask " then .ask (String.ofList (entered.drop 4))
  else if command.getLast? == some '?' then .ask (String.ofList entered)
  else if entered.isEmpty then .nothing
  else .unknown

namespace Dialogue

/-- The lines that open a dialogue. -/
def opening : List String :=
  let bar := String.ofList (List.replicate 60 '=')
  ["", bar, "ELLM Interactive Session", bar]

/-- What asks the user for a line. -/
def prompt : String := "\nELLM> "

/-- The list of commands. -/
def commands : List String := [
  "",
  "Available commands:",
  "  help            - Show this help",
  "  quit/exit/q     - Exit the session",
  "  learn <text>    - Learn facts and rules",
  "  ask <question>  - Ask a yes/no question",
  "  facts           - List learned facts",
  "  rules           - List learned rules",
  "  sample          - Reset and load the sample knowledge",
  "  reset           - Forget everything",
  "  stats           - Show session statistics",
  "  <question>?     - Same as ask"]

/-- The lines that list what has been learned. -/
def listing (kind : String) (items : List String) : List String :=
  if items.isEmpty then [s!"  No {kind} learned yet."] else items.map fun item => s!"  - {item}"

/-- The lines that show figures. -/
def figureLines (figures : SessionFigures) : List String := [
  "",
  "Session Statistics:",
  s!"  Facts: {figures.facts}",
  s!"  Rules: {figures.rules}",
  s!"  Concepts: {figures.concepts}",
  s!"  Queries: {figures.tally.queries}",
  s!"  Cycles detected: {figures.reasoning.effort.cycles}"]

/-- Learns from a text and shows a line for every sentence. -/
def learn (session : Session) (text : String) : Script Session := do
  let (lessons, session) ← Script.learn session text
  Script.printLines (lessons.map fun lesson => "  " ++ lesson.line)
  return session

/-- Answers what a line asks for. -/
def answer (session : Session) : Request → Script (Option Session)
  | .quit => do
    Script.printLine "Goodbye!"
    return none
  | .help => do
    Script.printLines commands
    return some session
  | .learn text => do
    return some (← learn session text)
  | .facts => do
    let (summary, session) := session.summary
    Script.printLines (listing "facts" summary.facts)
    return some session
  | .rules => do
    let (summary, session) := session.summary
    Script.printLines (listing "rules" summary.rules)
    return some session
  | .sample => do
    let session ← Script.reset session
    return some (← learn session sampleKnowledge)
  | .reset => do
    let session ← Script.reset session
    Script.printLine "Knowledge base cleared."
    return some session
  | .figures => do
    Script.printLines (figureLines session.figures)
    return some session
  | .ask question => do
    let (answer, session) ← Script.ask session question
    Script.printLines ("" :: answerLines answer)
    return some session
  | .nothing => return some session
  | .unknown => do
    Script.printLine "Unknown command. Type 'help' for available commands."
    return some session

/-- Answers one line. -/
def step (session : Session) (line : String) : Script (Option Session) :=
  answer session (Request.read line)

/-- The lines that close a dialogue that the user does not end with a command. -/
def closing : List String := ["", "Goodbye!"]

/-- Answers all lines that are entered, up to the end of the dialogue. -/
def run (session : Session) : List Entered → Script Unit
  | [] => do
    Script.print prompt
    Script.printLines closing
  | .interrupt :: _ => do
    Script.print prompt
    Script.printLines closing
  | .line text :: entered => do
    Script.print prompt
    match ← step session text with
    | none => return ()
    | some session => run session entered

end Dialogue

end PrimeReasoner.CommandLine
