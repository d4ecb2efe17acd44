import JsonSchema.CommandLine.Arguments
import JsonSchema.Digest.Sha256
import JsonSchema.Format.Standard
import JsonSchema.Plan.Cache
import JsonSchema.Retrieval.Files

/-!
# What the program does

## What is here

* `Report` — an exit code and what is written.
* `Sources.load` — schema, instance and options; relative references are resolved against the schema's own place.
* `Report.ofCheck`, `Report.ofBench` — **the two subcommands**.
* `Report.ofArguments` — the whole program, except for `Report.timeLines`, the lines about measured times.
-/

set_option autoImplicit false

namespace JsonSchema

/-- The end of the program: its exit code, what it writes as its output and as errors, and the locations of the
documents it asked for. -/
structure Report where
  code : Nat
  output : String
  errors : String
  requests : List String
deriving DecidableEq

/-! ## Help -/

/-- The options that stand in every help text. -/
def commonHelp : String :=
  "  -v, --verbose...             Increase log verbosity (-v info, -vv debug, -vvv trace)\n" ++
  "  -h, --help                   Print help\n"

/-- The operands in a help text. -/
def operandHelp : String :=
  "Arguments:\n" ++
  "  <SCHEMA>    Schema source: file path or URL (http:// or https://)\n" ++
  "  <INSTANCE>  Instance source: file path or URL (http:// or https://)\n\n" ++
  "Options:\n" ++
  "      --coerce                 Also treat numeric strings as numbers\n" ++
  "      --max-depth <MAX_DEPTH>  Recursion limit for checking and compilation [default: 100]\n"

/-- The help text of a part of the program. -/
def Topic.help : Topic → String
  | .program =>
    "Check JSON documents against JSON Schema (draft 3 / draft 4)\n\n" ++
    "Usage: " ++ programName ++ " [OPTIONS] <COMMAND>\n\n" ++
    "Commands:\n" ++
    "  check  Check an instance against a schema\n" ++
    "  bench  Compile once and time repeated checks\n" ++
    "  help   Print this message or the help of the given subcommand(s)\n\n" ++
    "Options:\n" ++ commonHelp ++
    "  -V, --version                Print version\n"
  | .check =>
    "Check an instance against a schema\n\n" ++
    "Usage: " ++ programName ++ " check [OPTIONS] <SCHEMA> <INSTANCE>\n\n" ++ operandHelp ++
    "      --compiled               Use the compiled backend instead of the interpreter\n" ++
    "      --json                   Output results as JSON (for automation)\n" ++ commonHelp
  | .bench =>
    "Compile once and time repeated checks\n\n" ++
    "Usage: " ++ programName ++ " bench [OPTIONS] <SCHEMA> <INSTANCE>\n\n" ++ operandHelp ++
    "  -n, --iterations <ITERATIONS>  Number of checks to run per backend [default: 1000]\n" ++ commonHelp

namespace Report

/-- The end when arguments ask for no action. -/
def ofStop : Stop → Report
  | .help topic => ⟨0, topic.help, "", []⟩
  | .version => ⟨0, programName ++ " " ++ programVersion ++ "\n", "", []⟩
  | .nothing => ⟨2, "", Topic.help .program, []⟩
  | .misuse message => ⟨2, "", "error: " ++ message ++ "\n\nFor more information, try '--help'.\n", []⟩

/-! ## Failures -/

/-- A failure, as text or as JSON. -/
def failure (json : Bool) (code : Nat) (message : String) (requests : List String) : Report :=
  if json then
    ⟨code, (Json.object [("valid", .bool false), ("error", .string message)]).text ++ "\n", "", requests⟩
  else ⟨code, "", "Error: " ++ message ++ "\n", requests⟩

/-- A fault, as text or as JSON. -/
def ofFault (json : Bool) (f : Fault) (requests : List String) : Report :=
  failure json (CheckError.fault f).exitCode f.message requests

/-- Violations, as lines or as JSON. -/
def ofErrors (json : Bool) (errors : ErrorSet) (requests : List String) : Report :=
  if errors.isEmpty then
    ⟨0, if json then (Json.object [("valid", .bool true)]).text ++ "\n" else "Valid\n", "", requests⟩
  else
    let code := (CheckError.invalid errors).exitCode
    if json then
      let list := errors.records.map fun v =>
        Json.object [("path", .string v.path), ("message", .string v.message)]
      ⟨code, (Json.object [("valid", .bool false), ("errors", .array list)]).text ++ "\n", "", requests⟩
    else
      let lines := errors.records.map fun v => "  " ++ v.text ++ "\n"
      ⟨code, "", "Validation failed:\n" ++ String.join lines, requests⟩

end Report

/-! ## Subcommands -/

/-- A schema, an instance, and the options to check them with. -/
structure Loaded where
  schema : Json
  value : Json
  options : Options

namespace Sources

/-- The base of the references in a schema. -/
def base? (working source : String) : Option Url :=
  if Files.isWebAddress source then (Url.parse? source).toOption else Url.baseOfFile? working source

/-- Loads schema and instance, the schema first. -/
def load (s : Sources) (files : Files) (working : String) (json : Bool) : Except Report Loaded :=
  match Files.loadSource files s.schema with
  | .error e => .error (.failure json e.exitCode ("loading schema: " ++ e.message) [s.schema])
  | .ok schema =>
    match Files.loadSource files s.value with
    | .error e =>
      .error (.failure json e.exitCode ("loading instance: " ++ e.message) [s.schema, s.value])
    | .ok value =>
      .ok { schema, value
            options :=
              { mode := s.mode
                maxDepth := s.maxDepth
                library := Files.library files
                formats := .standard
                baseUri := base? working s.schema } }

end Sources

namespace Report

/-- Checks the instance, by the schema as it is read or by its plan. -/
def ofCheck (files : Files) (working : String) (s : Sources) (compiled json : Bool) : Report :=
  match s.load files working json with
  | .error r => r
  | .ok l =>
    let run : Run ErrorSet :=
      if compiled then
        (PlanCache.empty.compile Sha256.hex l.options l.schema).1 >>= fun plan =>
          Run.ofExcept (plan.check l.value)
      else check l.options l.schema l.value
    let requests := [s.schema, s.value] ++ run.requests
    match run.outcome with
    | .error f => ofFault json f requests
    | .ok errors => ofErrors json errors requests

/-- The last line about repeated checks. -/
def benchLine (iterations count : Nat) : String :=
  String.ofList (Nat.toDigits 10 iterations) ++ " checks per backend, " ++
    String.ofList (Nat.toDigits 10 count) ++ " error(s) per check\n"

/-- A number of thousandths as a decimal number, at least ten characters wide. -/
def thousandths (n : Nat) : String :=
  let fraction := String.ofList (Nat.toDigits 10 (1000 + n % 1000)).tail
  let text := String.ofList (Nat.toDigits 10 (n / 1000)) ++ "." ++ fraction
  "".pushn ' ' (10 - text.length) ++ text

/-- The lines about measured times, which are given in nanoseconds. -/
def timeLines (iterations compiling compiled interpreted : Nat) : String :=
  "compile:     " ++ thousandths (compiling / 1000) ++ " ms\n" ++
    "compiled:    " ++ thousandths (compiled / iterations) ++ " us/check\n" ++
    "interpreted: " ++ thousandths (interpreted / iterations) ++ " us/check\n"

/-- Checks the instance in both ways, at least once. -/
def ofBench (files : Files) (working : String) (s : Sources) (iterations : Nat) : Report :=
  match s.load files working false with
  | .error r => r
  | .ok l =>
    let run : Run ErrorSet := do
      let plan ← (PlanCache.empty.compile Sha256.hex l.options l.schema).1
      let errors ← Run.ofExcept (plan.check l.value)
      let _ ← check l.options l.schema l.value
      return errors
    let requests := [s.schema, s.value] ++ run.requests
    match run.outcome with
    | .error f => ofFault false f requests
    | .ok errors => ⟨0, benchLine (max 1 iterations) errors.size, "", requests⟩

/-- The end of the program for some arguments. -/
def ofArguments (files : Files) (working : String) (arguments : List String) : Report :=
  match Action.read arguments with
  | .error stop => ofStop stop
  | .ok (.check sources compiled json) => ofCheck files working sources compiled json
  | .ok (.bench sources iterations) => ofBench files working sources iterations

end Report

end JsonSchema
