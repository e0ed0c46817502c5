import PrimeReasoner.Number.Numeral
import PrimeReasoner.Text.Lines
import PrimeReasoner.Text.Quoted

/-!
# Reading a command line

A grammar says which options a program takes, and whether it takes an operand: a word, or a command
with everything behind it. `Grammar.read` sorts the arguments accordingly.

An option is written `--name value` or `--name=value`; a beginning of its name is enough if it fits no
other option. Options of one letter that take no value may be written in a row behind one dash. Options
and operands may come in any order. `--` ends the options; as the value of an option it stands for none.
What looks like an option but is none is set aside as an extra argument, as is an operand for which there
is no place. A negative number, and anything with a blank in it, is an operand even if it starts with a
dash.

* `Grammar.classify` says for every argument what it is on its own.
* `Grammar.gather` takes options with their values and operands from left to right.
* `Grammar.read` also checks that nothing required is missing.
-/

namespace PrimeReasoner.CommandLine

/-- What an option takes. -/
inductive OptionKind where
  /-- Asks for help; takes nothing. -/
  | help
  /-- Takes nothing. -/
  | toggle
  /-- Takes any text. -/
  | text
  /-- Takes an integer. -/
  | integer
  /-- Takes one of some words. -/
  | choice (words : List String)
deriving DecidableEq, Repr

/-- Does an option of this kind take a value? -/
def OptionKind.takesValue : OptionKind → Bool
  | .help | .toggle => false
  | .text | .integer | .choice _ => true

/-- An option of a program. -/
structure OptionSpec where
  /-- Its names, with their dashes. -/
  names : List String
  /-- What it takes. -/
  kind : OptionKind
deriving DecidableEq, Repr

/-- The name under which an option is mentioned in messages. -/
def OptionSpec.title (spec : OptionSpec) : String := "/".intercalate spec.names

/-- What a program takes besides options. -/
inductive Operand where
  /-- A word, which must be given. -/
  | word (name : String)
  /-- A command out of some, with everything that follows it. -/
  | command (name : String) (choices : List String)
deriving DecidableEq, Repr

/-- What a program takes on its command line. -/
structure Grammar where
  /-- The options, in order. -/
  options : List OptionSpec
  /-- The operand, if there is one. -/
  operand : Option Operand := none

/-- What was given for an option. -/
inductive Given where
  /-- The option alone. -/
  | present
  /-- A text. -/
  | text (value : String)
  /-- An integer. -/
  | integer (value : Int)
  /-- No value, although the option takes one. -/
  | nothing
deriving DecidableEq, Repr

/-- Why arguments are not followed. -/
inductive Stop where
  /-- Help was asked for. -/
  | help
  /-- They are wrong; the text says why. -/
  | wrong (message : String)
deriving DecidableEq, Repr

/-! ## Single arguments -/

/-- What an argument is on its own. -/
inductive Mark where
  /-- An operand, or a value. -/
  | operand
  /-- The end of the options. -/
  | divider
  /-- An option of the grammar, under one of its names, with the value that is written into the same
  argument. -/
  | option (spec : OptionSpec) (name : String) (attached : Option String)
  /-- Something that looks like an option. -/
  | unknown
deriving DecidableEq, Repr

/-- Cuts a text at its first equals sign. -/
def cutEquals (s : String) : String × Option String :=
  let name := s.toList.takeWhile (· != '=')
  match s.toList.dropWhile (· != '=') with
  | [] => (s, none)
  | _ :: value => (String.ofList name, some (String.ofList value))

/-- Does the text start with the given one? -/
def startsWith (start s : String) : Bool := start.toList.isPrefixOf s.toList

/-- Is the text a negative number: a minus and digits, or digits around a point? A line feed may
follow. -/
def isNegativeNumber (s : String) : Bool :=
  match Text.withoutFinalFeed s.toList with
  | '-' :: rest =>
    let whole := rest.takeWhile Text.isNumeral
    match rest.dropWhile Text.isNumeral with
    | [] => !whole.isEmpty
    | '.' :: fraction => !fraction.isEmpty && fraction.all Text.isNumeral
    | _ => false
  | _ => false

/-- Every name of every option, in order. -/
def Grammar.names (grammar : Grammar) : List (String × OptionSpec) :=
  grammar.options.flatMap fun spec => spec.names.map fun name => (name, spec)

/-- The option with exactly this name. -/
def Grammar.option? (grammar : Grammar) (name : String) : Option OptionSpec :=
  (grammar.names.find? fun entry => entry.1 == name).map Prod.snd

/-- The options that an abbreviated argument may mean. -/
def Grammar.candidates (grammar : Grammar) (argument : String) :
    List (OptionSpec × String × Option String) :=
  if startsWith "--" argument then
    let (start, value?) := cutEquals argument
    (grammar.names.filter fun entry => startsWith start entry.1).map fun (name, spec) =>
      (spec, name, value?)
  else
    let short := String.ofList (argument.toList.take 2)
    grammar.names.filterMap fun (name, spec) =>
      if name == short then
        some (spec, name, some (String.ofList (argument.toList.drop 2)))
      else if startsWith argument name then some (spec, name, none)
      else none

/-- What an argument is that is no option's name: an option under a beginning of its name, an operand
with a dash, or something unknown. -/
def Grammar.abbreviation (grammar : Grammar) (argument : String) : Except Stop Mark :=
  match grammar.candidates argument with
  | [(spec, name, attached)] => .ok (.option spec name attached)
  | [] =>
    if isNegativeNumber argument || argument.toList.contains ' ' then .ok .operand
    else .ok .unknown
  | several =>
    let names := ", ".intercalate (several.map fun candidate => candidate.2.1)
    .error (.wrong s!"ambiguous option: {argument} could match {names}")

/-- What an argument is on its own. -/
def Grammar.mark (grammar : Grammar) (argument : String) : Except Stop Mark :=
  if !startsWith "-" argument then .ok .operand
  else match grammar.option? argument with
    | some spec => .ok (.option spec argument none)
    | none =>
      if argument.length = 1 then .ok .operand
      else match cutEquals argument with
        | (name, some value) =>
          match grammar.option? name with
          | some spec => .ok (.option spec name (some value))
          | none => grammar.abbreviation argument
        | (_, none) => grammar.abbreviation argument

/-- What every argument is on its own; behind `--` all are operands. -/
def Grammar.classify (grammar : Grammar) : List String → Except Stop (List (String × Mark))
  | [] => .ok []
  | "--" :: arguments => .ok (("--", .divider) :: arguments.map fun argument => (argument, .operand))
  | argument :: arguments => do
    let mark ← grammar.mark argument
    let marked ← grammar.classify arguments
    return (argument, mark) :: marked

/-! ## Options with their values -/

/-- A complaint about an option or operand. -/
def complaint (title message : String) : Stop := .wrong s!"argument {title}: {message}"

/-- A complaint about a word that is not among the choices. -/
def badChoice (title value : String) (choices : List String) : Stop :=
  let choices := ", ".intercalate (choices.map Text.quote)
  complaint title s!"invalid choice: {Text.quote value} (choose from {choices})"

/-- Reads the value of an option. -/
def OptionSpec.readValue (spec : OptionSpec) (value : String) : Except Stop Given :=
  match spec.kind with
  | .integer =>
    match Numeral.integer? 10 value.toList with
    | some n => .ok (.integer n)
    | none => .error (complaint spec.title s!"invalid int value: {Text.quote value}")
  | .choice words =>
    if words.contains value then .ok (.text value)
    else .error (badChoice spec.title value words)
  | _ => .ok (.text value)

/-- Reads the value of an option that is written into the same argument. -/
def OptionSpec.readAttached (spec : OptionSpec) (value : List Char) : Except Stop Given :=
  if value == ['-', '-'] then .ok .nothing else spec.readValue (String.ofList value)

/-- What has been read so far. -/
structure Gathered where
  /-- Options with what was given for them, in order. -/
  options : List (OptionSpec × Given) := []
  /-- The operand, with what follows it in the case of a command. -/
  operand : Option (List String) := none
  /-- Arguments for which there is no place. -/
  extras : List String := []

namespace Gathered

/-- What was given last for an option of the given name. -/
def given? (gathered : Gathered) (name : String) : Option Given :=
  (gathered.options.reverse.find? fun entry => entry.1.names.contains name).map Prod.snd

/-- The text given for an option. -/
def text? (gathered : Gathered) (name : String) : Option String :=
  match gathered.given? name with
  | some (.text value) => some value
  | _ => none

/-- The text given for an option, or a default; nothing if the option was given no value. -/
def textOr? (gathered : Gathered) (name default : String) : Option String :=
  match gathered.given? name with
  | some (.text value) => some value
  | some .nothing => none
  | _ => some default

/-- The integer given for an option, or a default; nothing if the option was given no value. -/
def integerOr? (gathered : Gathered) (name : String) (default : Int) : Option Int :=
  match gathered.given? name with
  | some (.integer value) => some value
  | some .nothing => none
  | _ => some default

/-- Was the option given? -/
def has (gathered : Gathered) (name : String) : Bool := (gathered.given? name).isSome

/-- With one more option. -/
def withOption (gathered : Gathered) (spec : OptionSpec) (given : Given) : Gathered :=
  { gathered with options := gathered.options ++ [(spec, given)] }

/-- With further extra arguments. -/
def withExtras (gathered : Gathered) (extras : List String) : Gathered :=
  { gathered with extras := gathered.extras ++ extras }

end Gathered

/-- Takes an option that takes no value. -/
def takeToggle (gathered : Gathered) (spec : OptionSpec) : Except Stop Gathered :=
  match spec.kind with
  | .help => .error .help
  | _ => .ok (gathered.withOption spec .present)

/-- Takes options that take no value one after the other. -/
def takeToggles (gathered : Gathered) : List OptionSpec → Except Stop Gathered
  | [] => .ok gathered
  | spec :: specs =>
    match takeToggle gathered spec with
    | .ok gathered => takeToggles gathered specs
    | .error stop => .error stop

/-- The complaint about a value for an option that takes none. -/
def OptionSpec.refuse (spec : OptionSpec) (value : List Char) : Stop :=
  complaint spec.title s!"ignored explicit argument {Text.quote (String.ofList value)}"

/-- Takes an option with a value written into the same argument. What follows a short option that takes
no value are further such options, all of which must be known; `before` are those already passed in the
row. -/
def Grammar.takeAttached (grammar : Grammar) (gathered : Gathered) (before : List OptionSpec)
    (spec : OptionSpec) (name : String) (value : List Char) : Except Stop Gathered :=
  if spec.kind.takesValue then do
    let gathered ← takeToggles gathered before
    let given ← spec.readAttached value
    return gathered.withOption spec given
  else if startsWith "--" name then .error (spec.refuse value)
  else match value with
    | [] => .error (spec.refuse [])
    | letter :: rest =>
      let next := String.ofList ['-', letter]
      match grammar.option? next with
      | none => .error (spec.refuse (letter :: rest))
      | some other =>
        if !rest.isEmpty then grammar.takeAttached gathered (before ++ [spec]) other next rest
        else if other.kind.takesValue then .error (complaint other.title "expected one argument")
        else takeToggles gathered (before ++ [spec, other])

/-! ## The whole command line -/

/-- Is the argument an option, known or not? -/
def Mark.isOption : Mark → Bool
  | .option .. | .unknown => true
  | .operand | .divider => false

/-- The operand at the start of some arguments, and the arguments behind it. A command takes all
that follows. -/
def takeOperand? : Operand → List (String × Mark) →
    Option (List String × List (String × Mark))
  | .word _, arguments =>
    let behind := arguments.dropWhile fun argument => argument.2 == .divider
    match behind with
    | (value, .operand) :: rest =>
      some ([value], rest.dropWhile fun argument => argument.2 == .divider)
    | _ => none
  | .command .., arguments =>
    let behind := arguments.dropWhile fun argument => argument.2 == .divider
    match behind with
    | (_, .operand) :: _ => some (arguments.map Prod.fst, [])
    | _ => none

/-- Checks an operand: a command must be one of the choices. -/
def checkOperand : Operand → List String → Except Stop Unit
  | .command name choices, value :: _ =>
    if choices.contains value then .ok () else .error (badChoice name value choices)
  | _, _ => .ok ()

/-- Takes an operand from the start of the arguments, if one is still due and there. -/
def Grammar.takeOperand (grammar : Grammar) (gathered : Gathered) (arguments : List (String × Mark)) :
    Except Stop (Option (Gathered × List (String × Mark))) :=
  match grammar.operand, gathered.operand with
  | some operand, none =>
    match takeOperand? operand arguments with
    | none => .ok none
    | some (values, rest) =>
      match checkOperand operand values with
      | .ok () => .ok (some ({ gathered with operand := some values }, rest))
      | .error stop => .error stop
  | _, _ => .ok none

/-- Takes the option at the start of the arguments, with its value. -/
def Grammar.takeOption (grammar : Grammar) (gathered : Gathered) :
    List (String × Mark) → Except Stop (Gathered × List (String × Mark))
  | (_, .option spec name (some attached)) :: rest =>
    match grammar.takeAttached gathered [] spec name attached.toList with
    | .ok gathered => .ok (gathered, rest)
    | .error stop => .error stop
  | (_, .option spec _ none) :: rest =>
    if spec.kind.takesValue then
      match rest with
      | (value, .operand) :: rest =>
        match spec.readValue value with
        | .ok given => .ok (gathered.withOption spec given, rest)
        | .error stop => .error stop
      | _ => .error (complaint spec.title "expected one argument")
    else
      match takeToggle gathered spec with
      | .ok gathered => .ok (gathered, rest)
      | .error stop => .error stop
  | (argument, _) :: rest => .ok (gathered.withExtras [argument], rest)
  | [] => .ok (gathered, [])

/-- Takes options and operands from left to right. As long as options follow, what stands before the
next option is an operand or extra. Every step takes at least one argument, so as many steps as there
are arguments, and one to finish, are enough. -/
def Grammar.gather (grammar : Grammar) : (steps : Nat) → Gathered → List (String × Mark) →
    Except Stop Gathered
  | 0, gathered, _ => .ok gathered
  | steps + 1, gathered, arguments =>
    if arguments.any fun argument => argument.2.isOption then
      match arguments with
      | (_, mark) :: _ =>
        if mark.isOption then
          match grammar.takeOption gathered arguments with
          | .ok (gathered, rest) => grammar.gather steps gathered rest
          | .error stop => .error stop
        else
          match grammar.takeOperand gathered arguments with
          | .error stop => .error stop
          | .ok (some (gathered, rest)) => grammar.gather steps gathered rest
          | .ok none =>
            let isBefore (argument : String × Mark) : Bool := !argument.2.isOption
            grammar.gather steps
              (gathered.withExtras ((arguments.takeWhile isBefore).map Prod.fst))
              (arguments.dropWhile isBefore)
      | [] => .ok gathered
    else
      match grammar.takeOperand gathered arguments with
      | .error stop => .error stop
      | .ok (some (gathered, rest)) => .ok (gathered.withExtras (rest.map Prod.fst))
      | .ok none => .ok (gathered.withExtras (arguments.map Prod.fst))

/-- Reads a command line. -/
def Grammar.read (grammar : Grammar) (arguments : List String) : Except Stop Gathered := do
  let marked ← grammar.classify arguments
  let gathered ← grammar.gather (arguments.length + 1) {} marked
  match grammar.operand, gathered.operand with
  | some (.word name), none => throw (.wrong s!"the following arguments are required: {name}")
  | _, _ => return gathered

end PrimeReasoner.CommandLine
