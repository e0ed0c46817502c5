import PrimeReasoner.CommandLine.Dialogue
import PrimeReasoner.CommandLine.Help
import PrimeReasoner.Json.Report

/-!
# Running the programs

* `runMain` runs the main program on its arguments, `runServer` the program that starts the service.
* `Outcome` is what is left afterwards: the exit code, what was printed where, the log, and how the
  service was started, if it was.
* `askScript`, `benchmarkScript`, `openDialogue` and `serveScript` are the commands.
* `plan` says what the arguments of the main program ask for, before anything is done.
-/

namespace PrimeReasoner.CommandLine

/-- What is left of a run. -/
structure Outcome where
  /-- The exit code. -/
  exit : Nat
  /-- What was printed. -/
  out : String := ""
  /-- What was printed about wrong arguments. -/
  err : String := ""
  /-- The log entries. -/
  log : List LogEntry := []
  /-- How the service was started. -/
  launch : Option Launch := none

/-! ## Commands -/

/-- Learns from a file, if one is named. -/
def learnFile (surroundings : Surroundings) (session : Session) :
    Option String → Script Session
  | none | some "" => return session
  | some name =>
    match surroundings.files name with
    | .error error => throw (.failed (error.message name))
    | .ok text => do
      let (_, session) ← Script.learn session (Text.unifyLineEnds text)
      return session

/-- Learns from a text, if there is one. -/
def learnText (session : Session) : Option String → Script Session
  | none | some "" => return session
  | some text => do
    let (_, session) ← Script.learn session text
    return session

/-- Learns what is given and answers one question. -/
def askScript (surroundings : Surroundings) (config : Option String) (gathered : Gathered) :
    Script Unit := do
  let session ← Script.openSession surroundings config
  let session ← learnFile surroundings session (gathered.text? "--knowledge")
  let session ← learnText session (gathered.text? "--text")
  let sample := if gathered.has "--sample" then some sampleKnowledge else none
  let session ← learnText session sample
  let question := ((gathered.operand.getD []).head?).getD ""
  let (answer, _) ← Script.ask session question
  if gathered.has "--json" then Script.printLine answer.json.pretty
  else Script.printLines (answerLines answer)

/-- Decides a goal some times over, and gives the last verdict. -/
def deduceRepeatedly (goal : Fact) (last : Option Verdict) (session : Session) :
    (runs : Nat) → Script (Option Verdict)
  | 0 => return last
  | runs + 1 => do
    let (verdict, session) ← Script.deduce session goal
    deduceRepeatedly goal (some verdict) session runs

/-- The number of binary digits of a number. -/
def bitLength (n : Int) : Nat := if n = 0 then 0 else n.natAbs.log2 + 1

/-- The lines of a benchmark's report. Times are not part of it; a placeholder shows their place. -/
def benchmarkLines (length : Int) (deduced : Bool) (bits : Nat) : List String := [
  "\nBenchmark Results:",
  String.ofList (List.replicate 50 '='),
  s!"  chain_length: {length}",
  "  learn_time: <time>",
  "  deduced: " ++ (if deduced then "True" else "False"),
  "  avg_deduce_time: <time>",
  "  max_deduce_time: <time>",
  s!"  largest_encoding_bits: {bits}"]

/-- The count that an option gives, which must have a value. -/
def countOf (gathered : Gathered) (name : String) (default : Int) : Script Int :=
  match gathered.integerOr? name default with
  | some count => return count
  | none => throw (.failed "'list' object cannot be interpreted as an integer")

/-- Adds the facts of a chain of the given length. -/
def addChain (session : Session) (length : Int) : Script Session :=
  match session.store.addFacts (Store.chain "c" "part of" length.toNat) with
  | (.ok (), store) => return { session with store }
  | (.error error, _) => throw (.failed error.message)

/-- Runs deductions over a chain and reports on them. -/
def benchmarkScript (surroundings : Surroundings) (config : Option String) (gathered : Gathered) :
    Script Unit := do
  Script.info "Running ELLM benchmarks..."
  let session ← Script.openSession surroundings config
  let length ← countOf gathered "--chain-length" 50
  let session ← addChain session length
  let goal := Fact.of "c0" "part of" s!"c{length}"
  let runs ← countOf gathered "--runs" 5
  let verdict ← deduceRepeatedly goal none session runs.toNat
  let deduced := (verdict.map Verdict.holds).getD false
  let bits := (session.store.knowledge.encodings.map bitLength).foldl max 0
  Script.note ((benchmarkLines length deduced bits).map fun line => ⟨.info, line⟩)

/-- Opens a dialogue with the user. -/
def openDialogue (surroundings : Surroundings) (config : Option String) : Script Session := do
  Script.info "Starting ELLM interactive session..."
  Script.info "Type 'quit' or 'exit' to end the session"
  Script.info "Type 'help' for available commands"
  let session ← Script.openSession surroundings config
  Script.printLines Dialogue.opening
  return session

/-- How the options of a service ask for it to be started. -/
def launchOf (gathered : Gathered) (config : Config) : Launch where
  host := gathered.textOr? "--host" "0.0.0.0"
  port := gathered.integerOr? "--port" 8000
  reload := gathered.has "--reload"
  workers := gathered.integerOr? "--workers" 1
  logLevel := gathered.textOr? "--log-level" "info"
  config

/-- What stands for a missing value in a report. -/
def noValue : String := "[]"

/-- An integer in a report. -/
def numberText (value : Option Int) : String := (value.map toString).getD noValue

/-- The report that a service is about to start. -/
def startLine (launch : Launch) : String :=
  s!"Starting ELLM API server on {launch.host.getD noValue}:{numberText launch.port}"

/-- Starts the service. -/
def serveScript (surroundings : Surroundings) (config : Option String) (gathered : Gathered) :
    Script Unit := do
  let session ← Script.openSession surroundings config
  let launch := launchOf gathered session.config
  Script.info (startLine launch)
  modify fun transcript => { transcript with launch := some launch }
  match surroundings.serviceEnd with
  | some failure => throw failure
  | none => return ()

/-! ## Programs -/

/-- What is left when arguments are not followed. -/
def stopped (program : Program) : Stop → Outcome
  | .help => { exit := 0, out := program.help }
  | .wrong message => { exit := 2, err := program.complain message }

/-- What is left of a script: a failure and a wish to stop are reported with these words. -/
def finish (failed interrupted : String) (script : Script Unit) : Outcome :=
  match script.run.run {} with
  | (.ok (), transcript) =>
    { exit := 0, out := transcript.out, log := transcript.log, launch := transcript.launch }
  | (.error (.failed message), transcript) =>
    { exit := 1, out := transcript.out, launch := transcript.launch
      log := transcript.log ++ [⟨.error, s!"{failed}: {message}"⟩] }
  | (.error .interrupted, transcript) =>
    { exit := 0, out := transcript.out, launch := transcript.launch
      log := transcript.log ++ [⟨.info, interrupted⟩] }

/-- Complains about arguments for which there is no place. -/
def unrecognized (program : Program) (extras : List String) : Outcome :=
  stopped program (.wrong ("unrecognized arguments: " ++ " ".intercalate extras))

/-- What arguments of the main program ask for. -/
inductive Plan where
  /-- Nothing more than this. -/
  | over (outcome : Outcome)
  /-- To run a script. -/
  | script (script : Script Unit)
  /-- To hold a dialogue, with the options of a configuration file. -/
  | dialogue (config : Option String)

/-- A command of the main program: how its user sees it, and what it does with its arguments. -/
def command? (surroundings : Surroundings) (config : Option String) :
    String → Option (Program × (Gathered → Plan))
  | "serve" => some (serveCommand, fun gathered => .script (serveScript surroundings config gathered))
  | "test" => some (testCommand, fun _ => .script (return ()))
  | "ask" => some (askCommand, fun gathered => .script (askScript surroundings config gathered))
  | "benchmark" =>
    some (benchmarkCommand, fun gathered => .script (benchmarkScript surroundings config gathered))
  | "interactive" => some (interactiveCommand, fun _ => .dialogue config)
  | _ => none

/-- What arguments of the main program ask for. Without a command it shows its help page. -/
def plan (surroundings : Surroundings) (arguments : List String) : Plan :=
  match mainProgram.grammar.read arguments with
  | .error stop => .over (stopped mainProgram stop)
  | .ok gathered =>
    match gathered.operand with
    | none | some [] =>
      if gathered.extras.isEmpty then .over { exit := 1, out := mainProgram.help }
      else .over (unrecognized mainProgram gathered.extras)
    | some (name :: arguments) =>
      match command? surroundings (gathered.text? "--config") name with
      | none => .over (unrecognized mainProgram (name :: arguments))
      | some (program, follow) =>
        match program.grammar.read arguments with
        | .error stop => .over (stopped program stop)
        | .ok inner =>
          let extras := gathered.extras ++ inner.extras
          if extras.isEmpty then follow inner else .over (unrecognized mainProgram extras)

/-- What is left of a script of the main program. -/
def finishMain (script : Script Unit) : Outcome :=
  finish "Error" "Operation cancelled by user" script

/-- Runs the main program. -/
def runMain (surroundings : Surroundings) (entered : List Entered) (arguments : List String) :
    Outcome :=
  match plan surroundings arguments with
  | .over outcome => outcome
  | .script script => finishMain script
  | .dialogue config => finishMain do
    let session ← openDialogue surroundings config
    Dialogue.run session entered

/-- Announces the service and starts it. -/
def serverScript (surroundings : Surroundings) (gathered : Gathered) : Script Unit := do
  let launch := launchOf gathered {}
  Script.info (startLine launch)
  Script.info s!"Log level: {launch.logLevel.getD noValue}"
  Script.info s!"Workers: {numberText launch.workers}"
  if launch.workers.getD 0 > 1 then
    Script.note [⟨.warning, "Knowledge is not shared between worker processes"⟩]
  serveScript surroundings (gathered.text? "--config") gathered

/-- Why a program breaks down, so that there is no outcome. -/
inductive Breakdown where
  /-- It is not known how many processes to start. -/
  | unknownWorkers
deriving DecidableEq, Repr

/-- Runs the program that starts the service. It needs to know how many processes to start. -/
def runServer (surroundings : Surroundings) (arguments : List String) : Except Breakdown Outcome :=
  match serverProgram.grammar.read arguments with
  | .error stop => .ok (stopped serverProgram stop)
  | .ok gathered =>
    if !gathered.extras.isEmpty then .ok (unrecognized serverProgram gathered.extras)
    else if (gathered.integerOr? "--workers" 1).isNone then .error .unknownWorkers
    else
      .ok (finish "Server error" "Server stopped by user" (serverScript surroundings gathered))

end PrimeReasoner.CommandLine
