import JsonSchema.Check

/-!
# Arguments of the command line

## What is here

* `OptionSpec` — an option: its names, and whether it may be repeated or takes a value.
* `Parsed` — the options and operands that have been found.
* `takeOption` — an argument that starts with a hyphen.
* `Action` — what the command line asks for; `Action.read` — **reading the arguments**.
-/

set_option autoImplicit false

namespace JsonSchema

/-- The name of the program, and its version. -/
def programName : String := "json-constraint"

/-- The version of the program. -/
def programVersion : String := "0.3.0"

/-- A part of the program that has a help text of its own. -/
inductive Topic where
  | program
  | check
  | bench
deriving DecidableEq

/-- Why arguments ask for no action. -/
inductive Stop where
  | help (topic : Topic)
  | version
  /-- There are no arguments at all: the help text is an error message. -/
  | nothing
  | misuse (message : String)
deriving DecidableEq

/-! ## Options -/

/-- What an option goes with. -/
inductive Arity where
  | switch
  | counted
  /-- A value that passes a test. -/
  | valued (accepts : String → Bool)

/-- An option. -/
structure OptionSpec where
  long : String
  short : Option Char
  arity : Arity

/-- The options, with the values of those that take one, and the other arguments, the last ones first. -/
structure Parsed where
  options : List (String × String)
  operands : List String

namespace Parsed

/-- Nothing found. -/
def empty : Parsed := ⟨[], []⟩

/-- Whether an option was found. -/
def has (p : Parsed) (name : String) : Bool := p.options.any (·.1 == name)

/-- Adds an option. Only options that are counted may be repeated. -/
def add (p : Parsed) (spec : OptionSpec) (value : String) : Except Stop Parsed :=
  match spec.arity with
  | .counted => .ok { p with options := (spec.long, value) :: p.options }
  | .switch =>
    if p.has spec.long then
      .error (.misuse ("the argument '--" ++ spec.long ++ "' cannot be used multiple times"))
    else .ok { p with options := (spec.long, value) :: p.options }
  | .valued accepts =>
    if p.has spec.long then
      .error (.misuse ("the argument '--" ++ spec.long ++ "' cannot be used multiple times"))
    else if accepts value then .ok { p with options := (spec.long, value) :: p.options }
    else .error (.misuse ("invalid value '" ++ value ++ "' for '--" ++ spec.long ++ "'"))

end Parsed

/-- An argument that was not expected. -/
def unexpected (argument : String) : Stop := .misuse ("unexpected argument '" ++ argument ++ "' found")

/-- Whether an argument starts with a hyphen and goes on. -/
def looksLikeOption (argument : String) : Bool :=
  argument.toList.head? == some '-' && argument != "-"

/-- The value of an option that stands in the next argument. -/
def nextValue (spec : OptionSpec) (rest : List String) : Except Stop (String × List String) :=
  let missing := Stop.misuse ("a value is required for '--" ++ spec.long ++ "' but none was supplied")
  match rest with
  | [] => .error missing
  | value :: rest => if looksLikeOption value then .error missing else .ok (value, rest)

/-- An option with its full name, which may have its value behind an equals sign. -/
def takeLong (specs : List OptionSpec) (p : Parsed) (argument : String) (rest : List String) :
    Except Stop (Parsed × List String) :=
  let cs := argument.toList.drop 2
  let name := String.ofList (cs.takeWhile (· != '='))
  let value := (cs.dropWhile (· != '=')).tail?.map String.ofList
  match specs.find? (·.long == name) with
  | none => .error (unexpected argument)
  | some spec =>
    match spec.arity, value with
    | .valued _, some value => return (← p.add spec value, rest)
    | .valued _, none => do
      let (value, rest) ← nextValue spec rest
      return (← p.add spec value, rest)
    | _, some _ => .error (.misuse ("unexpected value for '--" ++ spec.long ++ "' found"))
    | _, none => return (← p.add spec "", rest)

/-- Options of one letter each behind a single hyphen. The value of an option may follow its letter at once. -/
def takeShort (specs : List OptionSpec) (p : Parsed) (argument : String) (rest : List String) :
    List Char → Except Stop (Parsed × List String)
  | [] => .ok (p, rest)
  | c :: cs =>
    match specs.find? (·.short == some c) with
    | none => .error (unexpected argument)
    | some spec =>
      match spec.arity, cs with
      | .valued _, [] => do
        let (value, rest) ← nextValue spec rest
        return (← p.add spec value, rest)
      | .valued _, '=' :: value => return (← p.add spec (String.ofList value), rest)
      | .valued _, value => return (← p.add spec (String.ofList value), rest)
      | _, cs => do takeShort specs (← p.add spec "") argument rest cs

/-- The option for help. -/
def helpOption : OptionSpec := ⟨"help", some 'h', .switch⟩

/-- An argument that starts with a hyphen, and what follows it. A question for help or for the version ends the
reading at once. -/
def takeOption (topic : Topic) (specs : List OptionSpec) (p : Parsed) (argument : String)
    (rest : List String) : Except Stop (Parsed × List String) := do
  let specs := helpOption :: specs
  let (p, rest) ←
    if "--".toList.isPrefixOf argument.toList then takeLong specs p argument rest
    else takeShort specs p argument rest (argument.toList.drop 1)
  if p.has "help" then throw (.help topic)
  if p.has "version" then throw .version
  return (p, rest)

/-! ## Subcommands -/

/-- Adds an operand, of which there may be two. -/
def takeOperand (p : Parsed) (argument : String) : Except Stop Parsed :=
  if p.operands.length < 2 then .ok { p with operands := argument :: p.operands }
  else .error (unexpected argument)

/-- Reads the arguments of a subcommand. Behind two hyphens there are operands only. The number bounds how many
arguments there are. -/
def readArguments (topic : Topic) (specs : List OptionSpec) : Nat → Parsed → List String →
    Except Stop Parsed
  | 0, p, _ => .ok p
  | _ + 1, p, [] => .ok p
  | n + 1, p, argument :: rest =>
    if argument == "--" then rest.foldlM takeOperand p
    else if looksLikeOption argument then do
      let (p, rest) ← takeOption topic specs p argument rest
      readArguments topic specs n p rest
    else do readArguments topic specs n (← takeOperand p argument) rest

/-- A whole number below a bound; a plus sign may stand before it. -/
def boundedNumber? (bound : Nat) (text : String) : Option Nat :=
  let ds := match text.toList with
    | '+' :: ds => ds
    | ds => ds
  if ds.isEmpty || !ds.all Char.isDigit then none
  else if digitsValue ds < bound then some (digitsValue ds)
  else none

/-- Where schema and instance are, and how they are to be checked. -/
structure Sources where
  schema : String
  value : String
  mode : Mode
  maxDepth : Nat
deriving DecidableEq

/-- What a command line asks for. -/
inductive Action where
  | check (sources : Sources) (compiled json : Bool)
  | bench (sources : Sources) (iterations : Nat)
deriving DecidableEq

/-- The option for more log messages, of which there are none. -/
def verboseOption : OptionSpec := ⟨"verbose", some 'v', .counted⟩

/-- The option for a number below a bound. -/
def numberOption (long : String) (short : Option Char) (bound : Nat) : OptionSpec :=
  ⟨long, short, .valued fun text => (boundedNumber? bound text).isSome⟩

/-- The options of both subcommands. -/
def sharedOptions : List OptionSpec :=
  [verboseOption, ⟨"coerce", none, .switch⟩, numberOption "max-depth" none (2 ^ 64)]

namespace Parsed

/-- The value of an option that takes a number. -/
def number (p : Parsed) (name : String) (otherwise : Nat) : Nat :=
  ((p.options.lookup name).bind (boundedNumber? (2 ^ 64))).getD otherwise

/-- The sources, if there are two operands. -/
def sources (p : Parsed) : Except Stop Sources :=
  match p.operands with
  | [value, schema] =>
    .ok { schema, value
          mode := if p.has "coerce" then .coerce else .strict
          maxDepth := p.number "max-depth" defaultMaxDepth }
  | _ => .error (.misuse "the following required arguments were not provided: <SCHEMA> <INSTANCE>")

end Parsed

namespace Action

/-- Reads the arguments of `check`. -/
def readCheck (arguments : List String) : Except Stop Action := do
  let specs := sharedOptions ++ [⟨"compiled", none, .switch⟩, ⟨"json", none, .switch⟩]
  let p ← readArguments .check specs (arguments.length + 1) .empty arguments
  return .check (← p.sources) (p.has "compiled") (p.has "json")

/-- Reads the arguments of `bench`. -/
def readBench (arguments : List String) : Except Stop Action := do
  let specs := sharedOptions ++ [numberOption "iterations" (some 'n') (2 ^ 32)]
  let p ← readArguments .bench specs (arguments.length + 1) .empty arguments
  return .bench (← p.sources) (p.number "iterations" 1000)

/-- The help text that the subcommand for help asks for. -/
def readHelp : List String → Stop
  | [] => .help .program
  | ["check"] => .help .check
  | ["bench"] => .help .bench
  | ["help"] => .help .program
  | "check" :: name :: _ => .misuse ("unrecognized subcommand '" ++ name ++ "'")
  | "bench" :: name :: _ => .misuse ("unrecognized subcommand '" ++ name ++ "'")
  | "help" :: name :: _ => .misuse ("unrecognized subcommand '" ++ name ++ "'")
  | name :: _ => .misuse ("unrecognized subcommand '" ++ name ++ "'")

/-- Reads arguments up to the name of a subcommand, and then those of the subcommand. The number bounds how many
arguments there are. -/
def readFrom : Nat → Parsed → List String → Except Stop Action
  | 0, _, _ => .error .nothing
  | _ + 1, _, [] => .error (.misuse "a subcommand is required but one was not provided")
  | n + 1, p, argument :: rest =>
    if argument == "--" then
      .error (unexpected (rest.headD argument))
    else if looksLikeOption argument then do
      let specs := [verboseOption, ⟨"version", some 'V', .switch⟩]
      let (p, rest) ← takeOption .program specs p argument rest
      readFrom n p rest
    else
      match argument with
      | "check" => readCheck rest
      | "bench" => readBench rest
      | "help" => .error (readHelp rest)
      | name => .error (.misuse ("unrecognized subcommand '" ++ name ++ "'"))

/-- Reads the arguments of the program. -/
def read (arguments : List String) : Except Stop Action :=
  if arguments.isEmpty then .error .nothing
  else readFrom (arguments.length + 1) .empty arguments

end Action

end JsonSchema
