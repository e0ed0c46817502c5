import PrimeReasoner.CommandLine.Grammar

/-!
# The programs and their help pages

There are two programs. The main one has commands, each with a grammar and a help page of its own;
the other starts the service.

* `Program` is a program, or a command of the main one, as its user sees it: the name under which it
  speaks, what it takes, and its help page.
* `mainProgram` and `serverProgram` are the programs; `serveCommand`, `askCommand`, `benchmarkCommand`,
  `interactiveCommand` and `testCommand` are the commands of the main one.
-/

namespace PrimeReasoner.CommandLine

/-- A program as its user sees it. -/
structure Program where
  /-- The name under which it speaks. -/
  name : String
  /-- What it takes. -/
  grammar : Grammar
  /-- The lines of its help page. The first ones, up to an empty line, are the usage. -/
  helpLines : List String

namespace Program

/-- Lines as a text. -/
def page (lines : List String) : String := String.join (lines.map (· ++ "\n"))

/-- The help page. -/
def help (program : Program) : String := page program.helpLines

/-- The usage. -/
def usage (program : Program) : String := page (program.helpLines.takeWhile (· != ""))

/-- The complaint about wrong arguments, under the usage. -/
def complain (program : Program) (message : String) : String :=
  program.usage ++ s!"{program.name}: error: {message}\n"

end Program

/-! ## Options -/

/-- The option that asks for help. -/
def helpOption : OptionSpec := ⟨["-h", "--help"], .help⟩

/-- The words for log levels. -/
def logLevels : List String := ["debug", "info", "warning", "error"]

/-- The options of a service. -/
def serviceOptions : List OptionSpec := [
  ⟨["--host"], .text⟩, ⟨["--port"], .integer⟩, ⟨["--reload"], .toggle⟩, ⟨["--workers"], .integer⟩,
  ⟨["--log-level"], .choice logLevels⟩]

/-- The option that names a configuration file. -/
def configOption : OptionSpec := ⟨["--config"], .text⟩

/-! ## The main program and its commands -/

/-- The commands of the main program. -/
def commandNames : List String := ["serve", "test", "ask", "benchmark", "interactive"]

/-- The main program. -/
def mainProgram : Program where
  name := "cli.py"
  grammar := {
    options := [helpOption, configOption]
    operand := some (.command "command" commandNames) }
  helpLines := [
    "usage: cli.py [-h] [--config CONFIG]",
    "              \x7bserve,test,ask,benchmark,interactive\x7d ...",
    "",
    "ELLM prime-encoded inference engine CLI",
    "",
    "positional arguments:",
    "  \x7bserve,test,ask,benchmark,interactive\x7d",
    "                        Available commands",
    "    serve               Start the API server",
    "    test                Run tests",
    "    ask                 Answer a single question",
    "    benchmark           Run benchmarks",
    "    interactive         Start interactive session",
    "",
    "options:",
    "  -h, --help            show this help message and exit",
    "  --config CONFIG       Path to a YAML session configuration",
    "",
    "Examples:",
    "  python cli.py serve --host 0.0.0.0 --port 8000",
    "  python cli.py ask --sample \"Can penguins fly?\"",
    "  python cli.py interactive",
    "  python cli.py benchmark --chain-length 100",
    "        "]

/-- The command that starts the service. -/
def serveCommand : Program where
  name := "cli.py serve"
  grammar := { options := helpOption :: serviceOptions }
  helpLines := [
    "usage: cli.py serve [-h] [--host HOST] [--port PORT] [--reload]",
    "                    [--workers WORKERS]",
    "                    [--log-level \x7bdebug,info,warning,error\x7d]",
    "",
    "options:",
    "  -h, --help            show this help message and exit",
    "  --host HOST           Host to bind to",
    "  --port PORT           Port to bind to",
    "  --reload              Enable auto-reload",
    "  --workers WORKERS     Number of workers",
    "  --log-level \x7bdebug,info,warning,error\x7d"]

/-- The command that runs the checks of an installation. -/
def testCommand : Program where
  name := "cli.py test"
  grammar := {
    options := [helpOption, ⟨["--verbose", "-v"], .toggle⟩, ⟨["--coverage"], .toggle⟩] }
  helpLines := [
    "usage: cli.py test [-h] [--verbose] [--coverage]",
    "",
    "options:",
    "  -h, --help     show this help message and exit",
    "  --verbose, -v  Verbose output",
    "  --coverage     Generate coverage report"]

/-- The command that answers one question. -/
def askCommand : Program where
  name := "cli.py ask"
  grammar := {
    options := [
      helpOption, ⟨["--knowledge"], .text⟩, ⟨["--text"], .text⟩, ⟨["--sample"], .toggle⟩,
      ⟨["--json"], .toggle⟩]
    operand := some (.word "question") }
  helpLines := [
    "usage: cli.py ask [-h] [--knowledge KNOWLEDGE] [--text TEXT] [--sample]",
    "                  [--json]",
    "                  question",
    "",
    "positional arguments:",
    "  question              Yes/no question to answer",
    "",
    "options:",
    "  -h, --help            show this help message and exit",
    "  --knowledge KNOWLEDGE",
    "                        File with facts and rules to learn first",
    "  --text TEXT           Facts and rules to learn first",
    "  --sample              Learn the sample knowledge first",
    "  --json                Print the result as JSON"]

/-- The command that runs a deduction over a long chain. -/
def benchmarkCommand : Program where
  name := "cli.py benchmark"
  grammar := {
    options := [helpOption, ⟨["--chain-length"], .integer⟩, ⟨["--runs"], .integer⟩] }
  helpLines := [
    "usage: cli.py benchmark [-h] [--chain-length CHAIN_LENGTH] [--runs RUNS]",
    "",
    "options:",
    "  -h, --help            show this help message and exit",
    "  --chain-length CHAIN_LENGTH",
    "                        Length of the part-of chain",
    "  --runs RUNS           Number of timed deductions"]

/-- The command that starts a dialogue. -/
def interactiveCommand : Program where
  name := "cli.py interactive"
  grammar := { options := [helpOption] }
  helpLines := [
    "usage: cli.py interactive [-h]",
    "",
    "options:",
    "  -h, --help  show this help message and exit"]

/-! ## The service program -/

/-- The program that starts the service. -/
def serverProgram : Program where
  name := "ellm-server"
  grammar := { options := helpOption :: serviceOptions ++ [configOption] }
  helpLines := [
    "usage: ellm-server [-h] [--host HOST] [--port PORT] [--reload]",
    "                   [--workers WORKERS]",
    "                   [--log-level \x7bdebug,info,warning,error\x7d] [--config CONFIG]",
    "",
    "ELLM FastAPI Server",
    "",
    "options:",
    "  -h, --help            show this help message and exit",
    "  --host HOST           Host to bind to (default: 0.0.0.0)",
    "  --port PORT           Port to bind to (default: 8000)",
    "  --reload              Enable auto-reload for development",
    "  --workers WORKERS     Number of worker processes (default: 1)",
    "  --log-level \x7bdebug,info,warning,error\x7d",
    "                        Log level (default: info)",
    "  --config CONFIG       Path to a YAML session configuration"]

end PrimeReasoner.CommandLine
