import JsonSchema.CommandLine.Report

/-!
# The program

The answer to the arguments is computed from the files that are known. What it asked for and was not known yet is
read, and the answer is computed again, until nothing is missing.
-/

set_option autoImplicit false

namespace JsonSchema.Program

/-- What lies at a path. -/
def inspect (path : String) : IO FileState := do
  try return .content (← IO.FS.readFile path)
  catch
    | .noFileOrDirectory _ _ _ => return .missing
    | e => return .unreadable (toString e)

/-- The paths behind locations. -/
def pathsOf (requests : List String) : List String :=
  requests.filterMap fun uri => (Files.pathOf uri).toOption

/-- The answer to the arguments, and the files it rests on. -/
partial def answer (working : String) (arguments : List String) (known : List (String × FileState)) :
    IO (Report × Files) := do
  let files : Files := fun path => (known.lookup path).getD .missing
  let report := Report.ofArguments files working arguments
  let missing := (pathsOf report.requests).filter fun path => (known.lookup path).isNone
  if missing.isEmpty then return (report, files)
  let found ← missing.mapM fun path => return (path, ← inspect path)
  answer working arguments (found ++ known)

/-- How many nanoseconds it takes to compute something some number of times. -/
def measure {α : Type} (count : Nat) (compute : Nat → Except Fault α) : IO Nat := do
  let started ← IO.monoNanosNow
  for i in [0:count] do
    if let .error f := compute i then throw (IO.userError f.message)
  return (← IO.monoNanosNow) - started

/-- Writes how long compiling takes, and a check in either way. -/
def writeTimes (files : Files) (working : String) (sources : Sources) (iterations : Nat) : IO Unit := do
  let .ok l := sources.load files working false | return
  let compile (_ : Nat) := (PlanCache.empty.compile Sha256.hex l.options l.schema).1.outcome
  let .ok plan := compile 0 | return
  let count := max 1 iterations
  let compiling ← measure 1 compile
  let compiled ← measure count fun _ => plan.check l.value
  let interpreted ← measure count fun _ => (check l.options l.schema l.value).outcome
  (← IO.getStdout).putStr (Report.timeLines count compiling compiled interpreted)

end JsonSchema.Program

open JsonSchema in
/-- Runs the program. -/
def main (arguments : List String) : IO UInt32 := do
  let working := (← IO.currentDir).toString
  let (report, files) ← Program.answer working arguments []
  if let .ok (.bench sources iterations) := Action.read arguments then
    if report.code == 0 then Program.writeTimes files working sources iterations
  (← IO.getStdout).putStr report.output
  (← IO.getStderr).putStr report.errors
  return report.code.toUInt32
