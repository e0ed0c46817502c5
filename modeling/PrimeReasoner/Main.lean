import PrimeReasoner.CommandLine.Run
import PrimeReasoner.Yaml.Document

/-!
# The program

Reads the files that the arguments name, runs the main program and shows what is left of it. A
dialogue is held line by line, so that every answer is shown before the next line is read.
-/

namespace PrimeReasoner.CommandLine

/-- The texts that may name a file: the arguments, and what follows an equals sign in them. -/
def fileNames (arguments : List String) : List String :=
  arguments.flatMap fun argument => argument :: (cutEquals argument).2.toList

/-- What went wrong in reading a file. -/
def fileError : IO.Error → FileError
  | .inappropriateType .. => .isAFolder
  | .resourceExhausted .. | .invalidArgument .. => .tooLong
  | _ => .missing

/-- What the files of the given names hold. -/
def readFiles (names : List String) : IO (List (String × Except FileError String)) :=
  names.mapM fun (name : String) => do
    try
      let text ← IO.FS.readFile name
      return (name, .ok text)
    catch error => return (name, .error (fileError error))

/-- Shows what is left of a run. -/
def Outcome.show (outcome : Outcome) : IO UInt32 := do
  IO.print outcome.out
  IO.eprint outcome.err
  for entry in outcome.log do
    IO.eprintln entry.line
  return outcome.exit.toUInt32

/-- Shows the outcome of a part of a script, and gives its value if it did not break off. -/
def runPart {α : Type} (part : Script α) : IO (Option α × UInt32) := do
  let (result, transcript) := part.run.run {}
  let rest : Script Unit := do
    set transcript
    match result with
    | .ok _ => return ()
    | .error failure => throw failure
  let code ← (finishMain rest).show
  return (result.toOption, code)

/-- Holds a dialogue line by line. -/
partial def converse (session : Session) : IO UInt32 := do
  IO.print Dialogue.prompt
  (← IO.getStdout).flush
  let line ← (← IO.getStdin).getLine
  if line.isEmpty then return (← runPart (Script.printLines Dialogue.closing)).2
  match ← runPart (Dialogue.step session line) with
  | (some (some session), _) => converse session
  | (_, code) => return code

/-- Runs the main program with the given arguments. -/
def execute (arguments : List String) : IO UInt32 := do
  let files ← readFiles (fileNames arguments)
  let surroundings : Surroundings := {
    machine := .usual
    parse := Yaml.document? Yaml.usualDepth
    files := fun name => (files.lookup name).getD (.error .missing) }
  match plan surroundings arguments with
  | .over outcome => outcome.show
  | .script script => (finishMain script).show
  | .dialogue config =>
    match ← runPart (openDialogue surroundings config) with
    | (some session, _) => converse session
    | (none, code) => return code

end PrimeReasoner.CommandLine

/-- The program. -/
def main (arguments : List String) : IO UInt32 :=
  PrimeReasoner.CommandLine.execute arguments
